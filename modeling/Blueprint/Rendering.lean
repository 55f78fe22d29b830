import Blueprint.Layout.Lint
import Blueprint.Layout.Written
import Blueprint.Plan.Load
import Blueprint.Svg.Drawing

/-!
Renderings: the way from the text of a plan to a document, with all settings in one place. What the
layout leaves out is no reason to stop; only a text that is no valid plan has no document.
-/

namespace Blueprint

structure Rendering where
  format : PlanFormat := .toml
  layout : LayoutConfig Float := .standard
  svg : Svg.Config := .standard
  stylesheet : Stylesheet := .standard
  /-- Whether the seams inside a room are drawn too, whatever the settings of the drawing say. -/
  debug : Bool := false
  /-- Whether a drawing comes with what the layout puts up with. -/
  lint : Bool := false

namespace Rendering

/-- The layout of the plan in a text. -/
def layoutOf (r : Rendering) (source : List Char) : Except (List LoadError) (Layout Float) :=
  (Plan.load r.format source).map (·.layout r.layout)

def draw (r : Rendering) (layout : Layout Float) : String :=
  layout.svg { r.svg with debug := r.svg.debug || r.debug } r.stylesheet

def toSvg (r : Rendering) (source : List Char) : Except (List LoadError) String :=
  (r.layoutOf source).map r.draw

/-- The drawing with the warnings, if they are asked for. -/
def toSvgLinted (r : Rendering) (source : List Char) :
    Except (List LoadError) (String × List (Lint Float)) :=
  (r.layoutOf source).map fun layout => (r.draw layout,if r.lint then layout.lint else [])

def toJson (r : Rendering) (source : List Char) : Except (List LoadError) String :=
  (r.layoutOf source).map (·.toJson.pretty)

end Rendering

end Blueprint
