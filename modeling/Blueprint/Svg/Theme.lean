import Blueprint.Stylesheet.Basic
import Blueprint.Svg.Canvas

/-!
The style block of a drawing: the values of all tokens of a stylesheet, and the rules that paint
each class of shapes with them.
-/

namespace Blueprint.Svg

/-- What a property is set to. -/
inductive Paint where
  /-- The value of a token. -/
  | token (name : String)
  | words (text : List Char)

def Paint.chars : Paint → List Char
  | token name => "var(--".toList ++ name.toList ++ [')']
  | words text => text

/-- What holds for the shapes of a class. -/
structure Rule where
  className : String
  settings : List (String × Paint)

def setting (s : String × Paint) : List Char :=
  s.1.toList ++ ':' :: ' ' :: s.2.chars ++ [';']

def Rule.chars (config : Config) (r : Rule) : List Char :=
  '.' :: config.className r.className ++
    [' ','\x7b',' '] ++ [' '].intercalate (r.settings.map setting) ++ [' ','\x7d']

def noPaint : Paint := .words "none".toList

/-- The rules of a drawing. Labels have a font only if the stylesheet names one. -/
def rules (config : Config) (sheet : Stylesheet) : List Rule :=
  let wall := Paint.words (number config.wallStroke)
  let detail := Paint.words (number config.detailStroke)
  let font := if (sheet.resolve "font-family").isSome then
    [("font-family",Paint.token "font-family")] else []
  [⟨"room-fill",[("fill",.token "room-fill"),("stroke",noPaint)]⟩,
   ⟨"part-fill",[("fill",.token "part-fill"),("stroke",noPaint)]⟩,
   ⟨"wall",[("stroke",.token "wall"),("stroke-width",wall),
      ("stroke-linecap",.words "square".toList)]⟩,
   ⟨"opening",[("fill",.token "background"),("stroke",noPaint)]⟩,
   ⟨"door-leaf",[("stroke",.token "door"),("stroke-width",detail)]⟩,
   ⟨"door-swing",[("fill",noPaint),("stroke",.token "door-swing"),("stroke-width",detail)]⟩,
   ⟨"window-pane",[("stroke",.token "window"),("stroke-width",detail)]⟩,
   ⟨"object",[("fill",.token "object")]⟩,
   ⟨"label",[("fill",.token "label"),
      ("font-size",.words (number config.fontSize ++ ['p','x']))] ++ font⟩]

/-- The block that gives every token its value. -/
def tokenBlock (sheet : Stylesheet) : List Char :=
  let define (entry : String × String) : List Char :=
    "    --".toList ++ entry.1.toList ++ ':' :: ' ' :: entry.2.toList ++ [';','\n']
  ":root ".toList ++ '\x7b' :: '\n' :: sheet.colors.flatMap define ++ [' ',' ','\x7d']

/-- Everything that a stylesheet adds to the style block. -/
def theme (config : Config) (sheet : Stylesheet) : List (List Char) :=
  tokenBlock sheet :: (rules config sheet).map (Rule.chars config)

end Blueprint.Svg
