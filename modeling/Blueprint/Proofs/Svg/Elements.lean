import Blueprint.Proofs.Svg.Reading

/-!
What the items of a document tell: the names of tags and attributes, the elements that they begin and
end, and the words in text elements. Each is found piece by piece.
-/

namespace Blueprint.Svg

namespace Item

def isTag : Item → Bool
  | tag _ _ => true
  | char _ => false

/-- A tag without the values of its attributes: its name and theirs. -/
def outline : Item → List Char
  | tag fields last => (fields.map (·.1)).flatten ++ last
  | char _ => []

/-- The value that stands behind some text in a tag. -/
def value? (name : String) : Item → Option (List Char)
  | tag fields _ => fields.lookup name.toList
  | char _ => none

/-- The name of the element that a tag begins; an element without content begins none. -/
def begins? (item : Item) : Option (List Char) :=
  if item.outline.head? ∈ [none,some '/',some '?'] ∨ item.outline.getLast? = some '/' then none
  else some (item.outline.takeWhile (· ≠ ' '))

/-- The name of the element that a tag ends. -/
def ends? (item : Item) : Option (List Char) :=
  match item.outline with
  | '/' :: name => some name
  | _ => none

end Item

theorem outline_foundTag (name : List Char) (fields : List (String × List Char))
    (last : List Char) : (foundTag name fields last).outline =
      name ++ (fields.map fun f => (field f).1).flatten ++ last := by
  cases fields <;> simp [foundTag,Item.outline,Function.comp_def]

@[simp] theorem value?_bareTag (name : String) (text last : List Char) :
    (foundTag text [] last).value? name = none := rfl

@[simp] theorem begins?_emptyElement (name : List Char) (fields : List (String × List Char)) :
    (foundTag name fields ['/']).begins? = none := by
  rw [Item.begins?,outline_foundTag,List.getLast?_concat]
  simp

@[simp] theorem ends?_char (c : Char) : (Item.char c).ends? = none := rfl

@[simp] theorem begins?_char (c : Char) : (Item.char c).begins? = none := rfl

/-- The tags among some items. -/
def tags (items : List Item) : List Item := items.filter Item.isTag

@[simp] theorem tags_append (items items' : List Item) :
    tags (items ++ items') = tags items ++ tags items' := List.filter_append ..

theorem tags_flatMap {β : Type} (l : List β) (f : β → List Item) :
    tags (l.flatMap f) = l.flatMap fun b => tags (f b) := List.filter_flatMap

@[simp] theorem tags_cons_char (c : Char) (items : List Item) :
    tags (.char c :: items) = tags items := rfl

@[simp] theorem tags_chars (words : List Char) : tags (words.map .char) = [] := by
  induction words with
  | nil => rfl
  | cons c words ih => simpa using ih

@[simp] theorem tags_foundTag (name : List Char) (fields : List (String × List Char))
    (last : List Char) (items : List Item) :
    tags (foundTag name fields last :: items) = foundTag name fields last :: tags items := by
  have htag : (foundTag name fields last).isTag = true := by cases fields <;> rfl
  simp [tags,htag]

/-! ### Elements within elements -/

/-- Whether every tag that ends an element ends the one that was begun last, and none stays open. -/
def Nested : (stack : List (List Char)) → List Item → Prop
  | stack, [] => stack = []
  | stack, item :: rest =>
    match item.ends?, stack with
    | some name, top :: below => name = top ∧ Nested below rest
    | some _, [] => False
    | none, stack => Nested (item.begins?.toList ++ stack) rest

theorem nested_cons {stack : List (List Char)} {item : Item} (h : item.ends? = none)
    (rest : List Item) :
    Nested stack (item :: rest) ↔ Nested (item.begins?.toList ++ stack) rest := by
  simp only [Nested,h]

/-- Characters between tags do not show in how elements are nested. -/
theorem nested_tags {stack : List (List Char)} {items : List Item} :
    Nested stack (tags items) ↔ Nested stack items := by
  induction items generalizing stack with
  | nil => rfl
  | cons item items ih =>
    cases item with
    | char c =>
      rw [tags_cons_char,nested_cons (ends?_char c),begins?_char]
      exact ih
    | tag fields last =>
      have htags : tags (.tag fields last :: items) = .tag fields last :: tags items := rfl
      rw [htags,Nested.eq_def,Nested.eq_def stack (.tag fields last :: items)]
      split <;> simp_all

/-- Some items begin and end elements within themselves. -/
def Balanced (items : List Item) : Prop :=
  ∀ stack rest, Nested stack (items ++ rest) ↔ Nested stack rest

theorem Balanced.tags {items : List Item} (h : Balanced items) : Balanced (tags items) := by
  intro stack rest
  have hidem : Svg.tags (Svg.tags items ++ rest) = Svg.tags (items ++ rest) := by
    simp [Svg.tags]
  rw [← nested_tags,hidem,nested_tags,h]

theorem balanced_nil : Balanced [] := fun _ _ => Iff.rfl

theorem Balanced.append {items items' : List Item} (h : Balanced items) (h' : Balanced items') :
    Balanced (items ++ items') := by
  intro stack rest
  rw [List.append_assoc,h,h']

theorem balanced_flatMap {β : Type} {l : List β} {f : β → List Item}
    (h : ∀ b ∈ l, Balanced (f b)) : Balanced (l.flatMap f) := by
  induction l with
  | nil => exact balanced_nil
  | cons b l ih =>
    obtain ⟨hb,h⟩ := List.forall_mem_cons.mp h
    exact hb.append (ih h)

theorem balanced_chars (words : List Char) : Balanced (words.map .char) := by
  induction words with
  | nil => exact balanced_nil
  | cons c words ih =>
    intro stack rest
    exact ih stack rest

theorem balanced_singleton {item : Item} (hbegins : item.begins? = none)
    (hends : item.ends? = none) : Balanced [item] := by
  intro stack rest
  rw [List.singleton_append,nested_cons hends,hbegins]
  rfl

/-- An element around balanced items. -/
theorem Balanced.element {items : List Item} (h : Balanced items) {start stop : Item}
    {name : List Char} (hbegins : start.begins? = some name) (hstart : start.ends? = none)
    (hstop : stop.ends? = some name) : Balanced (start :: items ++ [stop]) := by
  intro stack rest
  rw [List.append_assoc,List.cons_append,nested_cons hstart,hbegins,h]
  simp [Nested,hstop]

/-! ### Words -/

/-- The characters in front of the next tag. -/
def wordsOf : List Item → List Char
  | .char c :: rest => c :: wordsOf rest
  | _ => []

/-- The words in every text element. -/
def texts : List Item → List (List Char)
  | [] => []
  | item :: rest =>
    if item.begins? = some "text".toList then wordsOf rest :: texts rest else texts rest

/-- Some items hold these text elements, whatever follows. -/
def HoldTexts (items : List Item) (words : List (List Char)) : Prop :=
  ∀ rest, texts (items ++ rest) = words ++ texts rest

theorem HoldTexts.texts {items : List Item} {words : List (List Char)}
    (h : HoldTexts items words) : Svg.texts items = words := by
  simpa [Svg.texts] using h []

theorem holdTexts_nil : HoldTexts [] [] := fun _ => rfl

theorem HoldTexts.append {items items' : List Item} {words words' : List (List Char)}
    (h : HoldTexts items words) (h' : HoldTexts items' words') :
    HoldTexts (items ++ items') (words ++ words') := by
  intro rest
  rw [List.append_assoc,h,h',List.append_assoc]

theorem holdTexts_of_forall {items : List Item}
    (h : ∀ item ∈ items, item.begins? ≠ some "text".toList) : HoldTexts items [] := by
  induction items with
  | nil => exact holdTexts_nil
  | cons item items ih =>
    obtain ⟨hitem,h⟩ := List.forall_mem_cons.mp h
    intro rest
    rw [List.cons_append,Svg.texts,if_neg hitem]
    exact ih h rest

theorem holdTexts_singleton {item : Item} (h : item.begins? ≠ some "text".toList) :
    HoldTexts [item] [] := holdTexts_of_forall (by simpa using h)

theorem holdTexts_chars (words : List Char) : HoldTexts (words.map .char) [] :=
  holdTexts_of_forall (by simp)

theorem wordsOf_chars (words : List Char) {fields : List (List Char × List Char)}
    {last : List Char} (rest : List Item) :
    wordsOf (words.map .char ++ .tag fields last :: rest) = words := by
  induction words with
  | nil => rfl
  | cons c words ih => simp [wordsOf,ih]

theorem holdTexts_element {start stop : Item} (hstart : start.begins? = some "text".toList)
    (hstop : stop.isTag = true) (hends : stop.begins? ≠ some "text".toList) (words : List Char) :
    HoldTexts (start :: (words.map .char ++ [stop])) [words] := by
  intro rest
  obtain ⟨fields,last,rfl⟩ : ∃ fields last, stop = .tag fields last := by
    cases stop with
    | tag fields last => exact ⟨fields,last,rfl⟩
    | char => cases hstop
  have hrest : HoldTexts (words.map .char ++ [.tag fields last]) [] :=
    (holdTexts_chars words).append (holdTexts_singleton hends)
  have hwords : wordsOf (words.map .char ++ [.tag fields last] ++ rest) = words := by
    rw [List.append_assoc,List.singleton_append,wordsOf_chars]
  rw [List.cons_append,Svg.texts,if_pos hstart,hwords,hrest]
  rfl

end Blueprint.Svg
