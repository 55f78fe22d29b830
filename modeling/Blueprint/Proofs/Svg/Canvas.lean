import Blueprint.Proofs.Svg.Elements
import Blueprint.Svg.Theme
import Mathlib.Data.List.Forall2

/-!
What a reader finds in a document. Every step is read as its tag, a text besides as its characters
and the tag behind them; the lines of a document are read one behind another.
-/

namespace Blueprint.Svg

/-! ### Steps -/

namespace Step

/-- The fill among the further attributes of a shape. -/
def fillFields (more : List Char) : List (String × List Char) :=
  if more = [] then [] else [("fill",(more.drop " fill=\"".length).dropLast)]

@[simp] theorem fillFields_nil : fillFields [] = [] := rfl

@[simp] theorem fillFields_attr (color : List Char) :
    fillFields (attr "fill" color) = [("fill",color)] := by
  have hdrop : (attr "fill" color).drop " fill=\"".length = color ++ ['"'] := rfl
  have hne : attr "fill" color ≠ [] := List.cons_ne_nil _ _
  rw [fillFields,if_neg hne,hdrop,List.dropLast_concat]

/-- The further attributes of a shape. -/
def more : Step → List Char
  | rect _ _ more => more
  | circle _ _ _ more => more
  | _ => []

/-- The attributes of a step with their values. -/
def fields (config : Config) : Step → List (String × List Char)
  | rect r classes more =>
    [("class",config.classList classes),("x",number r.x),("y",number r.y),
      ("width",number r.width),("height",number r.height)] ++ fillFields more
  | circle p radius classes more =>
    [("class",config.classList classes),("cx",number p.x),("cy",number p.y),
      ("r",number radius)] ++ fillFields more
  | polygon points classes =>
    [("class",config.classList classes),("points",[' '].intercalate (points.map pointText))]
  | line s classes =>
    [("class",config.classList classes),("x1",number s.start.x),("y1",number s.start.y),
      ("x2",number s.stop.x),("y2",number s.stop.y)]
  | path commands classes => [("class",config.classList classes),("d",commands)]
  | text _ p classes =>
    [("class",config.classList classes),("x",number p.x),("y",number p.y),
      ("text-anchor","middle".toList),("dominant-baseline","middle".toList)]
  | openGroup id classes =>
    ("id",escape id) :: if classes.isEmpty then [] else [("class",config.classList classes)]
  | closeGroup => []

/-- What the tag of a step begins with. -/
def element : Step → String
  | rect _ _ _ => "rect"
  | circle _ _ _ _ => "circle"
  | polygon _ _ => "polygon"
  | line _ _ => "line"
  | path _ _ => "path"
  | text _ _ _ => "text"
  | openGroup _ _ => "g"
  | closeGroup => "/g"

/-- What the tag of a step ends with. -/
def last : Step → List Char
  | text _ _ _ => []
  | openGroup _ _ => []
  | closeGroup => []
  | _ => ['/']

def tag (config : Config) (s : Step) : Item := foundTag s.element.toList (s.fields config) s.last

/-- The words between the tags of a step, as they are written. -/
def words? : Step → Option (List Char)
  | text w _ _ => some (escape w)
  | _ => none

def endOfText : Item := foundTag ('/' :: "text".toList) [] []

/-- What a reader finds of a step. -/
def items (config : Config) (s : Step) : List Item :=
  s.tag config :: match s.words? with
    | none => []
    | some words => words.map .char ++ [endOfText]

/-- The values of a step need no escaping, and it has a fill or no further attribute. -/
structure Clean (config : Config) (s : Step) : Prop where
  values : ∀ f ∈ s.fields config, Written f.2
  more : s.more = attrs (fillFields s.more)

/-- The classes of a step. -/
def classes : Step → List String
  | rect _ classes _ => classes
  | circle _ _ classes _ => classes
  | polygon _ classes => classes
  | line _ classes => classes
  | path _ classes => classes
  | text _ _ classes => classes
  | openGroup _ classes => classes
  | closeGroup => []

def commands : Step → List Char
  | path commands _ => commands
  | _ => []

/-- A step as drawings have them: all that comes from outside is escaped. -/
structure Tame (s : Step) : Prop where
  classes : ∀ name ∈ s.classes, Plain name.toList
  commands : Plain s.commands
  more : s.more = [] ∨ ∃ color, s.more = attr "fill" (escape color)

theorem plain_pointText (p : Point Float) : Plain (pointText p) := by
  simp only [pointText,plain_append,plain_cons,plain_number,true_and,and_true]
  decide

theorem Tame.clean {s : Step} (h : s.Tame) {config : Config}
    (hstem : Plain (config.classStem.getD "").toList) : s.Clean config := by
  have hclasses : Written (config.classList s.classes) := by
    refine Plain.written (plain_intercalate (by decide) fun name hname => ?_)
    obtain ⟨name',hname',rfl⟩ := List.mem_map.mp hname
    exact plain_append.mpr ⟨hstem,h.classes name' hname'⟩
  have hnumber (x : Float) : Written (number x) := (plain_number x).written
  have hfill : ∀ f ∈ fillFields s.more, Written f.2 := by
    rcases h.more with hmore | ⟨color,hmore⟩
    · simp [hmore]
    · simpa [hmore] using written_escape color
  refine ⟨?_,?_⟩
  · cases s with
    | rect r names more | circle p radius names more =>
      exact List.forall_mem_append.mpr ⟨by simpa [Step.classes,hnumber] using hclasses,hfill⟩
    | polygon points names =>
      have hpoints : Plain ([' '].intercalate (points.map pointText)) := by
        refine plain_intercalate (by decide) fun text htext => ?_
        obtain ⟨p,_,rfl⟩ := List.mem_map.mp htext
        exact plain_pointText p
      simpa [Step.classes,fields,hpoints.written] using hclasses
    | line s names => simpa [Step.classes,fields,hnumber] using hclasses
    | path commands names =>
      have hcommands : Plain commands := h.commands
      simpa [Step.classes,fields,hcommands.written] using hclasses
    | text w p names =>
      have hmiddle : Written "middle".toList := Plain.written (by decide)
      simpa [Step.classes,fields,hnumber] using ⟨hclasses,hmiddle⟩
    | openGroup id names =>
      refine List.forall_mem_cons.mpr ⟨written_escape id,?_⟩
      split
      · simp
      · simpa [Step.classes] using hclasses
    | closeGroup => simp [fields]
  · rcases h.more with hmore | ⟨color,hmore⟩ <;> simp [hmore,attrs]

theorem chars_eq {config : Config} {s : Step} (h : s.more = attrs (fillFields s.more)) :
    s.chars config = '<' :: s.element.toList ++ attrs (s.fields config) ++ s.last ++ ['>'] ++
      match s.words? with
      | none => []
      | some words => words ++ closeTag "text" := by
  cases s with
  | rect | circle =>
    simp only [more] at h
    simp only [chars,emptyElement,tagStart,fields,element,last,words?,attrs,Config.classAttr,
      numberAttr,List.flatten_cons,List.flatten_nil,List.flatMap_append,List.flatMap_cons,
      List.flatMap_nil]
    rw [attrs] at h
    simp [← h]
  | openGroup id classes =>
    cases classes <;>
      simp [chars,openTag,tagStart,fields,element,last,words?,attrs,Config.classAttr]
  | _ => simp [chars,emptyElement,openTag,closeTag,textElement,tagStart,fields,element,last,words?,
      attrs,Config.classAttr,numberAttr]

/-- The names of all attributes of steps. -/
def fieldNames : List String :=
  ["class","x","y","width","height","cx","cy","r","points","x1","y1","x2","y2","d","text-anchor",
    "dominant-baseline","id","fill"]

theorem plain_fieldNames : ∀ name ∈ fieldNames, Plain name.toList := by decide

theorem mem_fieldNames (config : Config) (s : Step) :
    ∀ f ∈ s.fields config, f.1 ∈ fieldNames := by
  have hfill (more : List Char) : ∀ f ∈ fillFields more, f.1 = "fill" := by
    intro f hf
    unfold fillFields at hf
    split at hf
    · cases hf
    · rw [List.mem_singleton.mp hf]
  cases s with
  | rect r classes more | circle p radius classes more =>
    refine List.forall_mem_append.mpr ⟨by simp [fieldNames],fun f hf => ?_⟩
    simp [hfill more f hf,fieldNames]
  | openGroup id classes => cases classes <;> simp [fields,fieldNames]
  | _ => simp [fields,fieldNames]

theorem reads_items {config : Config} {s : Step} (h : s.Clean config) :
    Reads (s.chars config) (s.items config) := by
  have hname : Plain s.element.toList := by cases s <;> simp only [element] <;> decide
  have hlast : Plain s.last := by cases s <;> simp only [last] <;> decide
  have hnames : ∀ f ∈ s.fields config, Plain f.1.toList :=
    fun f hf => plain_fieldNames f.1 (mem_fieldNames config s f hf)
  have htag := reads_tag hname hlast hnames h.values
  rw [chars_eq h.more]
  refine htag.append ?_
  cases s with
  | text w p classes =>
    have hclose : Reads (closeTag "text") [endOfText] := reads_closeTag _ (by decide)
    exact (reads_words (written_escape w)).append hclose
  | _ => exact reads_nil

/-- The element that the tag of a step begins. -/
theorem begins?_tag (config : Config) (s : Step) : (s.tag config).begins? =
    match s with
    | text _ _ _ => some "text".toList
    | openGroup _ _ => some "g".toList
    | _ => none := by
  cases s with
  | text | closeGroup => simp [tag,element,fields,last,Item.begins?,outline_foundTag,field]
  | openGroup id classes =>
    cases classes <;> simp [tag,element,fields,last,Item.begins?,outline_foundTag,field]
  | _ => exact begins?_emptyElement _ _

theorem ends?_tag (config : Config) (s : Step) : (s.tag config).ends? =
    match s with
    | closeGroup => some "g".toList
    | _ => none := by
  cases s <;> simp [tag,element,fields,last,Item.ends?,outline_foundTag,field]

theorem tags_items (config : Config) (s : Step) :
    tags (s.items config) = s.tag config :: (s.words?.map fun _ => endOfText).toList := by
  cases s <;> simp only [items,tag,words?,tags_foundTag,tags_append,tags_chars,endOfText] <;> rfl

/-- Whether a step begins or ends a group. -/
def isMark : Step → Bool
  | openGroup _ _ => true
  | closeGroup => true
  | _ => false

theorem balanced_items {config : Config} {s : Step} (h : s.isMark = false) :
    Balanced (s.items config) := by
  have hbegins := s.begins?_tag config
  have hends := s.ends?_tag config
  cases s with
  | text w p classes => exact (balanced_chars (escape w)).element hbegins hends rfl
  | openGroup | closeGroup => cases h
  | _ => exact balanced_singleton hbegins hends

theorem holdTexts_items (config : Config) (s : Step) :
    HoldTexts (s.items config) s.words?.toList := by
  have hbegins := s.begins?_tag config
  cases s with
  | text w p classes => exact holdTexts_element hbegins rfl (by decide) (escape w)
  | _ => exact holdTexts_singleton (by rw [hbegins]; simp)

theorem value?_id_tag (config : Config) (s : Step) : (s.tag config).value? "g id=" =
    match s with
    | openGroup id _ => some (escape id)
    | _ => none := by
  cases s with
  | openGroup id classes =>
    cases classes <;> simp [tag,element,fields,foundTag,field,Item.value?]
  | rect r classes m | circle p radius classes m =>
    by_cases hm : m = [] <;>
      simp [tag,element,fields,fillFields,hm,foundTag,field,Item.value?,List.lookup_cons]
  | _ => simp [tag,element,fields,foundTag,field,Item.value?,List.lookup_cons]

theorem value?_fill_tag (config : Config) (s : Step) : (s.tag config).value? " fill=" =
    (fillFields s.more).head?.map (·.2) := by
  cases s with
  | openGroup id classes =>
    cases classes <;> simp [tag,element,fields,foundTag,field,Item.value?,List.lookup_cons,more]
  | rect r classes m | circle p radius classes m =>
    by_cases hm : m = [] <;>
      simp [tag,element,fields,fillFields,hm,foundTag,field,Item.value?,List.lookup_cons,more]
  | _ => simp [tag,element,fields,foundTag,field,Item.value?,List.lookup_cons,more]

end Step

/-! ### Documents -/

namespace Canvas

/-- What a reader finds of the lines of steps. -/
def lineItems (config : Config) : (depth : Nat) → List Step → List (List Item)
  | _, [] => []
  | depth, s :: rest =>
    ((config.indent (s.level depth)).map .char ++ s.items config) ::
      lineItems config (s.after depth) rest

def styleItems (styles : List (List Char)) : List (List Item) :=
  let gap : List Item := [.char ' ',.char ' ']
  if styles.isEmpty then []
  else
    [gap ++ [foundTag "style".toList [] []]] ++ styles.map (fun style => gap ++ style.map .char) ++
      [gap ++ [foundTag ('/' :: "style".toList) [] []]]

def rootFields (config : Config) (view : Rect Float) : List (String × List Char) :=
  [("xmlns","http://www.w3.org/2000/svg".toList),
    ("viewBox",[' '].intercalate
      [number view.x,number view.y,number view.width,number view.height]),
    ("width",number (view.width * config.scale)),
    ("height",number (view.height * config.scale))]

def rootItem (config : Config) (view : Rect Float) : Item :=
  foundTag "svg".toList (rootFields config view) []

def declarationFields : List (String × List Char) :=
  [("version","1.0".toList),("encoding","UTF-8".toList)]

def declarationItem : Item := foundTag "?xml".toList declarationFields ['?']

/-- What a reader finds of a document. -/
def items (c : Canvas) (view : Rect Float) : List Item :=
  let head := if c.config.standalone then [[declarationItem]] else []
  let body := head ++ [[rootItem c.config view]] ++ styleItems c.styles ++
    lineItems c.config 1 c.steps
  body.flatMap (· ++ c.config.lineBreak.map .char) ++ [foundTag ('/' :: "svg".toList) [] []]

theorem plain_lineBreak (config : Config) : Plain config.lineBreak := by
  unfold Config.lineBreak
  split <;> decide

theorem plain_indent (config : Config) (depth : Nat) : Plain (config.indent depth) := by
  unfold Config.indent
  split
  · intro c hc
    rw [(List.mem_replicate.mp hc).2]
    decide
  · exact plain_nil

theorem reads_lineItems {config : Config} {steps : List Step}
    (h : ∀ s ∈ steps, s.Clean config) (depth : Nat) :
    List.Forall₂ Reads (lines config depth steps) (lineItems config depth steps) := by
  induction steps generalizing depth with
  | nil => exact .nil
  | cons s steps ih =>
    obtain ⟨hs,h⟩ := List.forall_mem_cons.mp h
    have hindent := reads_words (plain_indent config (s.level depth)).written
    exact .cons (hindent.append (Step.reads_items hs)) (ih h _)

theorem reads_styleItems {styles : List (List Char)} (h : ∀ style ∈ styles, Inert style) :
    List.Forall₂ Reads (styleLines styles) (styleItems styles) := by
  have hgap : Reads [' ',' '] [.char ' ',.char ' '] := reads_words (by decide : Plain _).written
  unfold styleLines styleItems
  split
  · exact .nil
  · have hopen : Reads (openTag "style" []) [foundTag "style".toList [] []] :=
      reads_openTag "style" [] (by decide) (by simp) (by simp)
    have hclose : Reads (closeTag "style") [foundTag ('/' :: "style".toList) [] []] :=
      reads_closeTag _ (by decide)
    have hrules : List.Forall₂ Reads (styles.map ([' ',' '] ++ ·))
        (styles.map fun style => [.char ' ',.char ' '] ++ style.map .char) := by
      rw [List.forall₂_map_left_iff,List.forall₂_map_right_iff,List.forall₂_same]
      exact fun style hstyle => hgap.append (reads_inert (h style hstyle))
    exact List.rel_append (List.rel_append (.cons (hgap.append hopen) .nil) hrules)
      (.cons (hgap.append hclose) .nil)

theorem reads_declaration : Reads declaration [declarationItem] := by
  have htext : declaration =
      '<' :: "?xml".toList ++ attrs declarationFields ++ ['?'] ++ ['>'] := by decide
  have hvalues : ∀ f ∈ declarationFields, Plain f.2 := by decide
  rw [htext]
  exact reads_tag (by decide) (by decide) (by decide) fun f hf => (hvalues f hf).written

theorem reads_rootTag (config : Config) (view : Rect Float) :
    Reads (rootTag config view) [rootItem config view] := by
  have hnames : ∀ f ∈ rootFields config view, Plain f.1.toList := by
    simp only [rootFields,List.forall_mem_cons]
    refine ⟨by decide,by decide,by decide,by decide,by simp⟩
  have hvalues : ∀ f ∈ rootFields config view, Plain f.2 := by
    simp only [rootFields,List.forall_mem_cons]
    exact ⟨by decide,plain_intercalate (by decide) (by simp),plain_number _,plain_number _,by simp⟩
  have htag : Reads (openTag "svg" ((rootFields config view).map fun f => attr f.1 f.2))
      [rootItem config view] :=
    reads_openTag "svg" _ (by decide) hnames fun f hf => (hvalues f hf).written
  exact htag

/-- A reader finds in a document what its steps draw. -/
theorem reads_document {c : Canvas} (hsteps : ∀ s ∈ c.steps, s.Clean c.config)
    (hstyles : ∀ style ∈ c.styles, Inert style) (view : Rect Float) :
    Reads (c.document view) (c.items view) := by
  have hhead : List.Forall₂ Reads (if c.config.standalone then [declaration] else [])
      (if c.config.standalone then [[declarationItem]] else []) := by
    split
    · exact .cons reads_declaration .nil
    · exact .nil
  have hroot : List.Forall₂ Reads [rootTag c.config view] [[rootItem c.config view]] :=
    .cons (reads_rootTag c.config view) .nil
  have hbody := List.rel_append
    (List.rel_append (List.rel_append hhead hroot) (reads_styleItems hstyles))
    (reads_lineItems hsteps 1)
  exact (reads_lines hbody (plain_lineBreak c.config).written).append (reads_closeTag _ (by decide))

/-! ### What a document tells -/

theorem tags_lineItems (config : Config) (lineBreak : List Char) (depth : Nat)
    (steps : List Step) :
    tags ((lineItems config depth steps).flatMap (· ++ lineBreak.map .char)) =
      steps.flatMap fun s => tags (s.items config) := by
  induction steps generalizing depth with
  | nil => rfl
  | cons s steps ih => simp [lineItems,ih]

/-- The tags around the styles of a document. -/
def styleTags (styles : List (List Char)) : List Item :=
  if styles.isEmpty then []
  else [foundTag "style".toList [] [],foundTag ('/' :: "style".toList) [] []]

theorem tags_styleItems (styles : List (List Char)) (lineBreak : List Char) :
    tags ((styleItems styles).flatMap (· ++ lineBreak.map .char)) = styleTags styles := by
  unfold styleItems styleTags
  split
  · rfl
  · simp [tags_flatMap,List.flatMap_map]

/-- The tags of a document: those of its steps between those that every document has. -/
theorem tags_items (c : Canvas) (view : Rect Float) : tags (c.items view) =
    (if c.config.standalone then [declarationItem] else []) ++ [rootItem c.config view] ++
      styleTags c.styles ++ (c.steps.flatMap fun s => tags (s.items c.config)) ++
        [foundTag ('/' :: "svg".toList) [] []] := by
  have hhead : tags ((if c.config.standalone then [[declarationItem]] else []).flatMap
      (· ++ c.config.lineBreak.map .char)) =
        if c.config.standalone then [declarationItem] else [] := by
    split
    · simp [declarationItem]
    · rfl
  have hroot : tags ([[rootItem c.config view]].flatMap (· ++ c.config.lineBreak.map .char)) =
      [rootItem c.config view] := by
    simp [rootItem]
  rw [items,tags_append,List.flatMap_append,List.flatMap_append,List.flatMap_append,tags_append,
    tags_append,tags_append,hhead,hroot,tags_styleItems,tags_lineItems]
  rfl

theorem begins?_rootItem (config : Config) (view : Rect Float) :
    (rootItem config view).begins? = some "svg".toList := by
  simp [rootItem,rootFields,Item.begins?,outline_foundTag,field]

theorem ends?_rootItem (config : Config) (view : Rect Float) :
    (rootItem config view).ends? = none := by
  simp [rootItem,rootFields,Item.ends?,outline_foundTag,field]

theorem nested_items (c : Canvas) (h : Balanced (c.steps.flatMap fun s => tags (s.items c.config)))
    (view : Rect Float) : Nested [] (c.items view) := by
  have hhead : Balanced (if c.config.standalone then [declarationItem] else []) := by
    split
    · exact balanced_singleton (by decide) (by decide)
    · exact balanced_nil
  have hstyles : Balanced (styleTags c.styles) := by
    unfold styleTags
    split
    · exact balanced_nil
    · have hbegins : (foundTag "style".toList [] []).begins? = some "style".toList := by decide
      exact balanced_nil.element hbegins (by decide) (by decide)
  have hdocument : Balanced ((if c.config.standalone then [declarationItem] else []) ++
      (rootItem c.config view :: (styleTags c.styles ++
        c.steps.flatMap fun s => tags (s.items c.config)) ++
          [foundTag ('/' :: "svg".toList) [] []])) :=
    hhead.append ((hstyles.append h).element (begins?_rootItem c.config view)
      (ends?_rootItem c.config view) (by decide))
  have hnested := (hdocument [] []).mpr rfl
  rw [← nested_tags,tags_items]
  simpa using hnested

theorem holdTexts_lineItems (config : Config) (lineBreak : List Char) (depth : Nat)
    (steps : List Step) :
    HoldTexts ((lineItems config depth steps).flatMap (· ++ lineBreak.map .char))
      (steps.filterMap Step.words?) := by
  induction steps generalizing depth with
  | nil => exact holdTexts_nil
  | cons s steps ih =>
    have hline := ((holdTexts_chars (config.indent (s.level depth))).append
      (s.holdTexts_items config)).append (holdTexts_chars lineBreak)
    have hwords : ([] ++ s.words?.toList ++ []) ++ steps.filterMap Step.words? =
        (s :: steps).filterMap Step.words? := by
      rw [List.filterMap_cons]
      cases s.words? <;> simp
    exact hwords ▸ hline.append (ih (s.after depth))

/-- What stands in front of the steps holds no text element. -/
theorem begins?_front (c : Canvas) (view : Rect Float) :
    ∀ line ∈ (if c.config.standalone then [[declarationItem]] else []) ++
      [[rootItem c.config view]] ++ styleItems c.styles,
    ∀ item ∈ line, item.begins? ≠ some "text".toList := by
  have hdeclaration : declarationItem.begins? ≠ some "text".toList := by decide
  have hroot : (rootItem c.config view).begins? ≠ some "text".toList := by
    simp [begins?_rootItem]
  have hopen : (foundTag "style".toList [] []).begins? ≠ some "text".toList := by decide
  have hclose : (foundTag ('/' :: "style".toList) [] []).begins? ≠ some "text".toList := by decide
  refine List.forall_mem_append.mpr ⟨List.forall_mem_append.mpr ⟨?_,by simpa using hroot⟩,?_⟩
  · split
    · simpa using hdeclaration
    · simp
  · unfold styleItems
    split
    · simp
    · refine List.forall_mem_append.mpr ⟨List.forall_mem_append.mpr
        ⟨by simpa using hopen,?_⟩,by simpa using hclose⟩
      rintro _ hline item hitem
      obtain ⟨style,_,rfl⟩ := List.mem_map.mp hline
      have hitem : item ∈ ([' ',' '] ++ style).map Item.char := hitem
      obtain ⟨c,_,rfl⟩ := List.mem_map.mp hitem
      simp

/-- The texts of a document are those of its steps. -/
theorem texts_items (c : Canvas) (view : Rect Float) :
    texts (c.items view) = c.steps.filterMap Step.words? := by
  have hfront : HoldTexts (((if c.config.standalone then [[declarationItem]] else []) ++
      [[rootItem c.config view]] ++ styleItems c.styles).flatMap
        (· ++ c.config.lineBreak.map .char)) [] := by
    refine holdTexts_of_forall fun item hitem => ?_
    obtain ⟨line,hline,hitem⟩ := List.mem_flatMap.mp hitem
    rcases List.mem_append.mp hitem with hitem | hitem
    · exact begins?_front c view line hline item hitem
    · obtain ⟨_,_,rfl⟩ := List.mem_map.mp hitem
      simp
  have hlines := holdTexts_lineItems c.config c.config.lineBreak 1 c.steps
  have hclose : HoldTexts [foundTag ('/' :: "svg".toList) [] []] [] :=
    holdTexts_singleton (by decide)
  have hall := ((hfront.append hlines).append hclose).texts
  rw [items,List.flatMap_append,hall,List.nil_append,List.append_nil]

/-- A value that is in none of the other tags is found in the tags of the steps. -/
theorem filterMap_value?_tags {c : Canvas} {view : Rect Float} {name : String}
    (hhead : declarationItem.value? name = none) (hroot : (rootItem c.config view).value? name = none) :
    (tags (c.items view)).filterMap (Item.value? name) =
      c.steps.filterMap fun s => (s.tag c.config).value? name := by
  have hfront : (if c.config.standalone then [declarationItem] else []).filterMap
      (Item.value? name) = [] := by
    split <;> simp [hhead]
  have hstyles : (styleTags c.styles).filterMap (Item.value? name) = [] := by
    unfold styleTags
    split <;> simp
  have hstep (s : Step) : (tags (s.items c.config)).filterMap (Item.value? name) =
      ((s.tag c.config).value? name).toList := by
    rw [s.tags_items]
    cases s.words? <;> cases hvalue : (s.tag c.config).value? name <;>
      simp [hvalue,Step.endOfText]
  rw [tags_items,List.filterMap_append,List.filterMap_append,List.filterMap_append,
    List.filterMap_append,hfront,hstyles,List.filterMap_flatMap]
  simp [hroot,hstep,List.filterMap_eq_flatMap_toList]

/-- The ids of a document are those of its groups. -/
theorem ids_items (c : Canvas) (view : Rect Float) :
    (tags (c.items view)).filterMap (Item.value? "g id=") =
      c.steps.filterMap fun s => (s.tag c.config).value? "g id=" := by
  refine filterMap_value?_tags (by decide) ?_
  simp [rootItem,rootFields,foundTag,field,Item.value?,List.lookup_cons]

/-- The fills of a document are those of its steps. -/
theorem fills_items (c : Canvas) (view : Rect Float) :
    (tags (c.items view)).filterMap (Item.value? " fill=") =
      c.steps.filterMap fun s => (s.tag c.config).value? " fill=" := by
  refine filterMap_value?_tags (by decide) ?_
  simp [rootItem,rootFields,foundTag,field,Item.value?,List.lookup_cons]

end Canvas

end Blueprint.Svg
