import Blueprint.Plan.Reference

/-!
References written and read. A name that is not empty is read back from the text that joins it to a
place, whatever characters it holds, since no place has a colon in its name. No other text is read
as a reference.
-/

namespace Blueprint

/-! ### Names of places -/

/-- The places of a kind have names without colons, by which they are found. -/
structure NamesPlaces {β : Type} (name : β → String) (ofName? : String → Option β) : Prop where
  found : ∀ {text : String} {place : β}, ofName? text = some place ↔ text = name place
  noColon : ∀ place, ':' ∉ (name place).toList

theorem NamesPlaces.injective {β : Type} {name : β → String} {ofName? : String → Option β}
    (h : NamesPlaces name ofName?) : Function.Injective name := fun _ _ hsame =>
  Option.some.inj ((h.found.mpr hsame).symm.trans (h.found.mpr rfl)).symm

theorem Corner.noColon_name (c : Corner) : ':' ∉ c.name.toList := by cases c <;> decide

theorem Corner.namesPlaces : NamesPlaces Corner.name Corner.ofName? where
  found := ⟨fun h => (name_of_ofName? h).symm,fun h => h ▸ ofName?_name _⟩
  noColon := noColon_name

theorem Corner.mem_names_iff {n : String} :
    n ∈ ["top-left","top-right","bottom-left","bottom-right"] ↔ ∃ c : Corner, c.name = n := by
  have hnames : ["top-left","top-right","bottom-left","bottom-right"] = all.map name := rfl
  simp [hnames,mem_all]

theorem Wall.noColon_name (w : Wall) : ':' ∉ w.name.toList := by cases w <;> decide

theorem Wall.namesPlaces : NamesPlaces Wall.name Wall.ofName? where
  found := ⟨fun h => (name_of_ofName? h).symm,fun h => h ▸ ofName?_name _⟩
  noColon := noColon_name

theorem Wall.mem_names_iff {n : String} :
    n ∈ ["top","bottom","left","right"] ↔ ∃ w : Wall, w.name = n := by
  have hnames : ["top","bottom","left","right"] = all.map name := rfl
  simp [hnames,mem_all]

/-! ### Texts cut at their last colon -/

theorem toList_joined (before after : String) :
    (before ++ ":" ++ after).toList = before.toList ++ ':' :: after.toList := by simp

/-- A text with a colon is cut in one way into a part before a colon and one without any. -/
theorem joined_inj {before before' after after' : String} (hafter : ':' ∉ after.toList)
    (hafter' : ':' ∉ after'.toList) (h : before ++ ":" ++ after = before' ++ ":" ++ after') :
    before = before' ∧ after = after' := by
  have hcut : Text.splitLast? ':' (before.toList ++ ':' :: after.toList) =
      Text.splitLast? ':' (before'.toList ++ ':' :: after'.toList) := by
    rw [← toList_joined,h,toList_joined]
  rw [Text.splitLast?_append hafter,Text.splitLast?_append hafter',Option.some.injEq,
    Prod.mk.injEq] at hcut
  exact ⟨String.toList_inj.mp hcut.1,String.toList_inj.mp hcut.2⟩

theorem exists_joined {text : String} (h : ':' ∈ text.toList) :
    ∃ before after : String, text = before ++ ":" ++ after ∧ ':' ∉ after.toList := by
  cases hcut : Text.splitLast? ':' text.toList with
  | none => exact absurd h (Text.splitLast?_eq_none.mp hcut)
  | some cut =>
    obtain ⟨htext,hafter⟩ := Text.splitLast?_eq_some hcut
    refine ⟨String.ofList cut.1,String.ofList cut.2,?_,by simpa using hafter⟩
    rw [← String.toList_inj,htext]
    simp

/-! ### References of any kind -/

section Kind

variable {β : Type} {name : β → String} {ofName? : String → Option β} {text target : String}
  {place : β}

/-- What a text is read as, by the part behind its last colon. -/
inductive ReadsAs (ofName? : String → Option β) :
    String → Except ReferenceError (String × β) → Prop where
  | noColon {text : String} (h : ':' ∉ text.toList) : ReadsAs ofName? text (.error .noColon)
  | noName {after : String} (h : ':' ∉ after.toList) :
    ReadsAs ofName? (":" ++ after) (.error .noName)
  | unknownPlace {before after : String} (hbefore : before ≠ "") (h : ':' ∉ after.toList)
    (hplace : ofName? after = none) :
    ReadsAs ofName? (before ++ ":" ++ after) (.error (.unknownPlace after))
  | place {before after : String} {place : β} (hbefore : before ≠ "") (h : ':' ∉ after.toList)
    (hplace : ofName? after = some place) :
    ReadsAs ofName? (before ++ ":" ++ after) (.ok (before,place))

/-- How a text is read whose last colon is known. -/
theorem parseReference_joined {before after : String} (h : ':' ∉ after.toList) :
    parseReference ofName? (before ++ ":" ++ after) =
      if before = "" then .error .noName
      else match ofName? after with
        | none => .error (.unknownPlace after)
        | some place => .ok (before,place) := by
  rw [parseReference,toList_joined,Text.splitLast?_append h]
  by_cases hbefore : before = ""
  · simp [hbefore]
  · rw [if_neg hbefore]
    cases hchars : before.toList with
    | nil => exact absurd (String.toList_inj.mp hchars) hbefore
    | cons c rest =>
      have hback : String.ofList (c :: rest) = before := by rw [← hchars,String.ofList_toList]
      cases hplace : ofName? after <;> simp [hback,hplace]

theorem readsAs_parseReference (ofName? : String → Option β) (text : String) :
    ReadsAs ofName? text (parseReference ofName? text) := by
  by_cases hcolon : ':' ∈ text.toList
  · obtain ⟨before,after,rfl,hafter⟩ := exists_joined hcolon
    rw [parseReference_joined hafter]
    by_cases hbefore : before = ""
    · simpa [hbefore] using ReadsAs.noName hafter
    · rw [if_neg hbefore]
      cases hplace : ofName? after with
      | none => exact .unknownPlace hbefore hafter hplace
      | some place => exact .place hbefore hafter hplace
  · rw [parseReference,Text.splitLast?_eq_none.mpr hcolon]
    exact .noColon hcolon

theorem parseReference_eq_iff {result : Except ReferenceError (String × β)} :
    parseReference ofName? text = result ↔ ReadsAs ofName? text result := by
  refine ⟨fun h => h ▸ readsAs_parseReference ofName? text,fun h => ?_⟩
  cases h with
  | noColon h => rw [parseReference,Text.splitLast?_eq_none.mpr h]
  | @noName after h =>
    have hread := @parseReference_joined β ofName? "" after h
    simpa using hread
  | unknownPlace hbefore h hplace => rw [parseReference_joined h,if_neg hbefore,hplace]
  | place hbefore h hplace => rw [parseReference_joined h,if_neg hbefore,hplace]

theorem NamesPlaces.parseReference_eq_ok_iff (h : NamesPlaces name ofName?) :
    parseReference ofName? text = .ok (target,place) ↔
      target ≠ "" ∧ text = target ++ ":" ++ name place := by
  rw [parseReference_eq_iff]
  constructor
  · rintro (_ | _ | _ | ⟨htarget,_,hplace⟩)
    exact ⟨htarget,by rw [h.found.mp hplace]⟩
  · rintro ⟨htarget,rfl⟩
    exact .place htarget (h.noColon place) (h.found.mpr rfl)

/-- A kind of references, to places that have these names, is read exactly as it is written. -/
structure ReadAsWritten {ρ : Type} (parse : String → Except ReferenceError ρ) (text : ρ → String)
    (make : String → β → ρ) (name : β → String) (names : List String) : Prop where
  listed : ∀ n, n ∈ names ↔ ∃ place, name place = n
  /-- A text is read if it joins a name that is not empty to the name of a place. -/
  accepted : ∀ s r, parse s = .ok r ↔
    ∃ target place, target ≠ "" ∧ s = target ++ ":" ++ name place ∧ r = make target place
  /-- There is one way at most to do so. -/
  unique : ∀ target target' place place',
    target ++ ":" ++ name place = target' ++ ":" ++ name place' → target = target' ∧ place = place'
  /-- What is read is written as it was. -/
  written : ∀ s r, parse s = .ok r → text r = s
  /-- What is written is read as it was. -/
  readBack : ∀ target place, target ≠ "" →
    parse (text (make target place)) = .ok (make target place)
  /-- Every other text is refused. -/
  refused : ∀ s, (∃ e, parse s = .error e) ↔
    ¬ ∃ target place, target ≠ "" ∧ s = target ++ ":" ++ name place
  /-- It is refused for having no colon, -/
  noColon : ∀ s, parse s = .error .noColon ↔ ':' ∉ s.toList
  /-- for having nothing in front of its last colon, -/
  noName : ∀ s, parse s = .error .noName ↔ ∃ n, s = ":" ++ n ∧ ':' ∉ n.toList
  /-- or for what is behind it, which is not the name of a place. -/
  unknownPlace : ∀ s n, parse s = .error (.unknownPlace n) ↔
    ∃ target, target ≠ "" ∧ s = target ++ ":" ++ n ∧ ':' ∉ n.toList ∧ n ∉ names

section Parse

variable {ρ : Type} {parse : String → Except ReferenceError ρ} {make : String → β → ρ}
  (hparse : ∀ s, parse s = (parseReference ofName? s).map fun (target,place) => make target place)

include hparse

theorem NamesPlaces.parse_eq_ok_iff (h : NamesPlaces name ofName?) {s : String} {r : ρ} :
    parse s = .ok r ↔
      ∃ target place, target ≠ "" ∧ s = target ++ ":" ++ name place ∧ r = make target place := by
  constructor
  · intro hread
    cases hreference : parseReference ofName? s with
    | error e => simp [hparse,hreference,Except.map] at hread
    | ok found =>
      obtain ⟨htarget,hs⟩ := h.parseReference_eq_ok_iff.mp hreference
      refine ⟨found.1,found.2,htarget,hs,?_⟩
      simpa [hparse,hreference,Except.map,eq_comm] using hread
  · rintro ⟨target,place,htarget,hs,rfl⟩
    rw [hparse,h.parseReference_eq_ok_iff.mpr ⟨htarget,hs⟩]
    rfl

theorem parse_eq_error_iff {s : String} {e : ReferenceError} :
    parse s = .error e ↔ ReadsAs ofName? s (.error e) := by
  rw [← parseReference_eq_iff,hparse]
  cases parseReference ofName? s <;> simp [Except.map]

theorem NamesPlaces.readAsWritten (h : NamesPlaces name ofName?) {text : ρ → String}
    (htext : ∀ target place, text (make target place) = target ++ ":" ++ name place)
    {names : List String} (hnames : ∀ n, n ∈ names ↔ ∃ place, name place = n) :
    ReadAsWritten parse text make name names where
  listed := hnames
  accepted _ _ := h.parse_eq_ok_iff hparse
  unique target target' place place' hsame := by
    obtain ⟨htarget,hplace⟩ := joined_inj (h.noColon place) (h.noColon place') hsame
    exact ⟨htarget,h.injective hplace⟩
  written s r hread := by
    obtain ⟨target,place,_,rfl,rfl⟩ := (h.parse_eq_ok_iff hparse).mp hread
    exact htext target place
  readBack target place htarget :=
    (h.parse_eq_ok_iff hparse).mpr ⟨target,place,htarget,htext target place,rfl⟩
  refused s := by
    constructor
    · rintro ⟨e,he⟩ ⟨target,place,htarget,hs⟩
      rw [(h.parse_eq_ok_iff hparse).mpr ⟨target,place,htarget,hs,rfl⟩] at he
      cases he
    · intro hnone
      cases hread : parse s with
      | error e => exact ⟨e,rfl⟩
      | ok r =>
        obtain ⟨target,place,htarget,hs,_⟩ := (h.parse_eq_ok_iff hparse).mp hread
        exact absurd ⟨target,place,htarget,hs⟩ hnone
  noColon s := by
    rw [parse_eq_error_iff hparse]
    exact ⟨fun hread => by cases hread; assumption,.noColon⟩
  noName s := by
    rw [parse_eq_error_iff hparse]
    constructor
    · rintro ⟨⟩
      exact ⟨_,rfl,by assumption⟩
    · rintro ⟨n,rfl,hn⟩
      exact .noName hn
  unknownPlace s n := by
    have hunknown : n ∉ names ↔ ofName? n = none := by
      rw [hnames,Option.eq_none_iff_forall_ne_some]
      simp [h.found,eq_comm]
    rw [parse_eq_error_iff hparse,hunknown]
    constructor
    · rintro (_ | _ | ⟨htarget,hn,hplace⟩)
      exact ⟨_,htarget,rfl,hn,hplace⟩
    · rintro ⟨target,htarget,rfl,hn,hplace⟩
      exact .unknownPlace htarget hn hplace

end Parse

end Kind

/-! ### Attachments and walls -/

theorem Attachment.readAsWritten : ReadAsWritten Attachment.parse Attachment.text Attachment.mk
    Corner.name ["top-left","top-right","bottom-left","bottom-right"] :=
  Corner.namesPlaces.readAsWritten (fun _ => rfl) (fun _ _ => rfl) fun _ => Corner.mem_names_iff

theorem WallReference.readAsWritten : ReadAsWritten WallReference.parse WallReference.text
    WallReference.mk Wall.name ["top","bottom","left","right"] :=
  Wall.namesPlaces.readAsWritten (fun _ => rfl) (fun _ _ => rfl) fun _ => Wall.mem_names_iff

/-- An attachment is read back from its text. -/
theorem Attachment.parse_text {a : Attachment} (h : a.target ≠ "") : parse a.text = .ok a :=
  Attachment.readAsWritten.readBack a.target a.corner h

/-- A wall is read back from its text. -/
theorem WallReference.parse_text {r : WallReference} (h : r.host ≠ "") : parse r.text = .ok r :=
  WallReference.readAsWritten.readBack r.host r.wall h

/-- References of both kinds are read exactly as they are written. -/
theorem references_readAsWritten :
    ReadAsWritten Attachment.parse Attachment.text Attachment.mk Corner.name
      ["top-left","top-right","bottom-left","bottom-right"] ∧
    ReadAsWritten WallReference.parse WallReference.text WallReference.mk Wall.name
      ["top","bottom","left","right"] :=
  ⟨Attachment.readAsWritten,WallReference.readAsWritten⟩

end Blueprint
