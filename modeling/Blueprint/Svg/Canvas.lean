import Blueprint.Geometry.Rect
import Blueprint.Svg.Markup

/-!
SVG documents drawn step by step. A step adds one line: a shape, a text, or the beginning or end of
a group. Groups indent what they hold.
-/

namespace Blueprint.Svg

/-- How a document is written. Lengths are in the units of the plan. -/
structure Config where
  /-- Whether the document begins with a declaration. -/
  standalone : Bool
  /-- Whether each element has a line of its own. -/
  pretty : Bool
  /-- What the names of all classes begin with. -/
  classStem : Option String
  /-- Pixels for a unit of the plan. -/
  scale : Float
  wallStroke : Float
  detailStroke : Float
  fontSize : Float
  /-- Whether rooms carry their names. -/
  labels : Bool
  /-- Whether the seams inside a room are drawn too. -/
  debug : Bool
  deriving Repr, Inhabited

def Config.standard : Config where
  standalone := true
  pretty := true
  classStem := some "fp-"
  scale := 0.1
  wallStroke := 40
  detailStroke := 15
  fontSize := 250
  labels := true
  debug := false

/-- One line of a drawing. -/
inductive Step where
  /-- A rectangle; `more` holds further attributes as they are written. -/
  | rect (rect : Rect Float) (classes : List String) (more : List Char)
  | circle (center : Point Float) (radius : Float) (classes : List String) (more : List Char)
  | polygon (points : List (Point Float)) (classes : List String)
  | line (segment : Segment Float) (classes : List String)
  | path (commands : List Char) (classes : List String)
  /-- A text around a point. -/
  | text (text : List Char) (center : Point Float) (classes : List String)
  | openGroup (id : List Char) (classes : List String)
  | closeGroup

namespace Config

def className (c : Config) (name : String) : List Char :=
  (c.classStem.getD "").toList ++ name.toList

def classList (c : Config) (classes : List String) : List Char :=
  [' '].intercalate (classes.map c.className)

def classAttr (c : Config) (classes : List String) : List Char :=
  attr "class" (c.classList classes)

def lineBreak (c : Config) : List Char := if c.pretty then ['\n'] else []

/-- The blanks in front of a line inside a number of containers. -/
def indent (c : Config) (depth : Nat) : List Char :=
  if c.pretty then List.replicate (2 * depth) ' ' else []

end Config

def pointText (p : Point Float) : List Char := number p.x ++ ',' :: number p.y

namespace Step

/-- The depth at which a step is drawn. -/
def level (depth : Nat) : Step → Nat
  | closeGroup => depth - 1
  | _ => depth

/-- The depth of what follows a step. -/
def after (depth : Nat) : Step → Nat
  | openGroup _ _ => depth + 1
  | closeGroup => depth - 1
  | _ => depth

def chars (c : Config) : Step → List Char
  | rect r classes more =>
    emptyElement "rect"
      [c.classAttr classes,numberAttr "x" r.x,numberAttr "y" r.y,
       numberAttr "width" r.width,numberAttr "height" r.height,more]
  | circle p radius classes more =>
    emptyElement "circle"
      [c.classAttr classes,numberAttr "cx" p.x,numberAttr "cy" p.y,
       numberAttr "r" radius,more]
  | polygon points classes =>
    emptyElement "polygon"
      [c.classAttr classes,attr "points" ([' '].intercalate (points.map pointText))]
  | line s classes =>
    emptyElement "line"
      [c.classAttr classes,numberAttr "x1" s.start.x,numberAttr "y1" s.start.y,
       numberAttr "x2" s.stop.x,numberAttr "y2" s.stop.y]
  | path commands classes =>
    emptyElement "path" [c.classAttr classes,attr "d" commands]
  | text s p classes =>
    textElement "text"
      [c.classAttr classes,numberAttr "x" p.x,numberAttr "y" p.y,
       attr "text-anchor" "middle".toList,attr "dominant-baseline" "middle".toList] s
  | openGroup id classes =>
    openTag "g"
      (attr "id" (escape id) ::
        if classes.isEmpty then [] else [c.classAttr classes])
  | closeGroup => closeTag "g"

end Step

/-- A drawing: rules of its style block, and its steps. -/
structure Canvas where
  config : Config
  styles : List (List Char)
  steps : List Step

namespace Canvas

def blank (config : Config) : Canvas := ⟨config,[],[]⟩

def add (c : Canvas) (steps : List Step) : Canvas := { c with steps := c.steps ++ steps }

def addStyles (c : Canvas) (styles : List (List Char)) : Canvas :=
  { c with styles := c.styles ++ styles }

/-- The lines of steps at a depth. -/
def lines (config : Config) : (depth : Nat) → List Step → List (List Char)
  | _, [] => []
  | depth, s :: rest =>
    (config.indent (s.level depth) ++ s.chars config) :: lines config (s.after depth) rest

def styleLines (styles : List (List Char)) : List (List Char) :=
  let gap := [' ',' ']
  if styles.isEmpty then []
  else
    [gap ++ openTag "style" []] ++ styles.map (gap ++ ·) ++ [gap ++ closeTag "style"]

/-- The tag of the whole document: what part of the plan is seen, and its size in pixels. -/
def rootTag (config : Config) (view : Rect Float) : List Char :=
  openTag "svg"
    [attr "xmlns" "http://www.w3.org/2000/svg".toList,
     attr "viewBox"
       ([' '].intercalate
         [number view.x,number view.y,number view.width,number view.height]),
     numberAttr "width" (view.width * config.scale),
     numberAttr "height" (view.height * config.scale)]

def declaration : List Char := "<?xml version=\"1.0\" encoding=\"UTF-8\"?>".toList

/-- The document that shows a part of the plan. -/
def document (c : Canvas) (view : Rect Float) : List Char :=
  let head := if c.config.standalone then [declaration] else []
  let body := head ++ [rootTag c.config view] ++ styleLines c.styles ++ lines c.config 1 c.steps
  body.flatMap (· ++ c.config.lineBreak) ++ closeTag "svg"

end Canvas

end Blueprint.Svg
