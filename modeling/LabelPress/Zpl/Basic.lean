import LabelPress.Text.Basic

/-!
# Printer documents

A document is a list of elements, each of which is written on one line or, for a bar code, on
two. Coordinates and sizes are in dots. Text goes in as it is: whoever builds a document keeps
carets and tildes out of it.
-/

namespace LabelPress

namespace Zpl

/-- An element of a document. -/
inductive Element where
  /-- The start of a format. -/
  | start
  /-- The end of a format. -/
  | stop
  /-- The default font and its height. -/
  | font (name : Text) (height : Int)
  /-- The default module width, ratio and height of bar codes. -/
  | barcodeDefaults (moduleWidth ratio height : Int)
  /-- A line of text at a place, white on black if reversed. -/
  | field (x y : Int) (text : Text) (reverse : Bool)
  /-- A text justified within a width, on so many lines. -/
  | block (x y : Int) (text : Text) (width lines : Int) (justify : Text)
  /-- A graphic command at a place. -/
  | graphic (x y : Int) (command : Text)
  /-- A filled or hollow circle with its parameters. -/
  | circle (x y : Int) (parameters : List Text)
  /-- A box with its border. -/
  | box (x y width height thickness : Int)
  /-- A bar code of subset 128. -/
  | code128 (x y : Int) (value : Text) (height : Int)
  /-- A line as it is. -/
  | raw (line : Text)
  deriving DecidableEq, Repr

namespace Element

/-- The origin of a field. -/
def origin (x y : Int) : Text := "^FO" ++ Text.ofInt x ++ "," ++ Text.ofInt y

/-- A graphic command as one line. -/
def graphicLine (x y : Int) (command : Text) : Text := origin x y ++ command ++ "^FS"

/-- Whole numbers with commas between them. -/
def numbers (ns : List Int) : Text := Text.join "," (ns.map Text.ofInt)

/-- The lines of an element. -/
def lines : Element → List Text
  | .start => ["^XA"]
  | .stop => ["^XZ"]
  | .font name height => ["^CF" ++ name ++ "," ++ Text.ofInt height]
  | .barcodeDefaults moduleWidth ratio height => ["^BY" ++ numbers [moduleWidth, ratio, height]]
  | .field x y text reverse =>
    [origin x y ++ Text.when reverse "^FR" ++ "^FD" ++ text ++ "^FS"]
  | .block x y text width lines justify =>
    [origin x y ++ "^FB" ++ numbers [width, lines, 0] ++ "," ++ justify ++ ",0^FD" ++ text
      ++ "^FS"]
  | .graphic x y command => [graphicLine x y command]
  | .circle x y parameters => [graphicLine x y ("^GC" ++ Text.join "," parameters)]
  | .box x y width height thickness =>
    [graphicLine x y ("^GB" ++ numbers [width, height, thickness])]
  | .code128 x y value height =>
    [origin x y ++ "^BCN," ++ Text.ofInt height ++ ",N,N,N", "^FD" ++ value ++ "^FS"]
  | .raw line => [line]

end Element

/-- The lines of a document. -/
def lines (document : List Element) : List Text := document.flatMap Element.lines

/-- The text of a document: its lines with a line feed between each two. -/
def render (document : List Element) : Text := Text.join "\n" (lines document)

theorem lines_append (a b : List Element) : lines (a ++ b) = lines a ++ lines b := by
  simp [lines]

end Zpl

end LabelPress
