import Blueprint.Proofs.Stylesheet.Overlay
import Blueprint.Proofs.Toml.Keys
import Blueprint.Stylesheet.Read

/-!
Sheets that are read off texts. The tokens of a sheet are the keys of one table of the text, and
stand in its order with the values that they have there.
-/

namespace Blueprint
namespace Stylesheet

open Document (Member Node RecordField Span exists_of_bind exists_of_map eq_of_within)

variable {d d' : Draft} {entries : List (Toml.Key × Toml.Item)}

/-! ### Members of the table -/

theorem find?_fields (key : String) : record.fields.find? (·.answersTo key) =
    if key = "metadata" then some metadataField
    else if key = "colors" then some colorsField else none := by
  by_cases hmetadata : key = "metadata"
  · subst hmetadata
    rfl
  · by_cases hcolors : key = "colors"
    · subst hcolors
      rfl
    · simp [record,metadataField,colorsField,RecordField.of,RecordField.answersTo,hmetadata,hcolors,
        Ne.symm hmetadata,Ne.symm hcolors]

/-- The colors are read off their member once, and other members leave them alone. -/
theorem colors_readMember {key : String} {keyPlace place : Option Span} {n : Node}
    (h : record.readMember d ⟨.ok key,keyPlace,n,place⟩ = .ok d') :
    if key = "colors" then
      d.colors = none ∧ ∃ p, n.asTable Node.asString = .ok p ∧ d'.colors = some p
    else d'.colors = d.colors := by
  obtain ⟨key',hkey,h⟩ := exists_of_bind h
  obtain rfl : key = key' := Except.ok.inj (eq_of_within hkey)
  rw [find?_fields] at h
  by_cases hmetadata : key = "metadata"
  · subst hmetadata
    simp only [if_true] at h
    split at h
    · cases h
    · obtain ⟨_,_,rfl⟩ := exists_of_map (eq_of_within h)
      rfl
  · simp only [hmetadata,if_false] at h
    by_cases hcolors : key = "colors"
    · simp only [hcolors,if_true] at h ⊢
      split at h
      · cases h
      · rename_i hset
        obtain ⟨p,hp,rfl⟩ := exists_of_map (eq_of_within h)
        exact ⟨Option.not_isSome_iff_eq_none.mp hset,p,hp,rfl⟩
    · simp only [hcolors,if_false] at h ⊢
      obtain ⟨_,_,h⟩ := exists_of_bind h
      obtain rfl : d = d' := Except.ok.inj h
      rfl

/-- What the members of a table say of colors. -/
theorem colors_readMembers {place : Option Span}
    (h : record.readMembers d (Toml.memberNodes place entries) = .ok d') :
    match Toml.findEntry? "colors" entries with
    | none => d'.colors = d.colors
    | some i => d.colors = none ∧
        ∃ p, i.node.asTable Node.asString = .ok p ∧ d'.colors = some p := by
  induction entries generalizing d with
  | nil =>
    obtain rfl : d = d' := Except.ok.inj h
    rfl
  | cons e rest ih =>
    obtain ⟨key,i⟩ := e
    obtain ⟨next,hnext,h⟩ := exists_of_bind h
    have hstep := colors_readMember hnext
    have hrest := ih h
    unfold Toml.findEntry?
    by_cases hcolors : key.text = "colors"
    · simp only [hcolors,if_true] at hstep ⊢
      obtain ⟨hnone,p,hp,hset⟩ := hstep
      refine ⟨hnone,p,hp,?_⟩
      split at hrest
      · rw [hrest,hset]
      · rw [hset] at hrest
        cases hrest.1
    · simp only [hcolors,if_false] at hstep ⊢
      rwa [hstep] at hrest

/-! ### Texts -/

/-- The colors are those of a table: the strings under the key for them, in order. -/
def ColorsOf (t : Toml.Table) (colors : Palette) : Prop :=
  match t.find? "colors" with
  | none => colors = []
  | some i => i.node.asTable Node.asString = .ok colors

theorem colors_finish {s : Stylesheet} (h : finish d = .ok s) :
    s.colors = Palette.overlay [] (d.colors.getD []) := by
  obtain rfl := Except.ok.inj h
  rfl

/-- No token is there twice, so it does not show that values are entered one after the other. -/
theorem colorsOf_of_read {t : Toml.Table} (ht : Toml.Item.KeysOnce (.table t)) {s : Stylesheet}
    (h : record.read (Toml.Item.table t).node = .ok s) : ColorsOf t s.colors := by
  obtain ⟨head,entries⟩ := t
  rw [Toml.Item.node] at h
  obtain ⟨d,hd,h⟩ := exists_of_bind h
  have hsheet := colors_finish (Document.Record.finish_of_conclude h)
  have hcolors := colors_readMembers hd
  unfold ColorsOf Toml.TableOf.find?
  cases hfind : Toml.findEntry? "colors" entries with
  | none =>
    simp only [hfind] at hcolors
    rw [hsheet,hcolors]
    rfl
  | some i =>
    simp only [hfind] at hcolors
    obtain ⟨_,p,hp,hcolors⟩ := hcolors
    have hdistinct : Palette.Distinct p :=
      Toml.nodup_keys_of_asTable (Toml.keysOnce_of_find? ht hfind) hp
    rw [hcolors,Option.getD_some,hdistinct.overlay_nil] at hsheet
    rw [hsheet]
    exact hp

/-- A sheet has its colors as they stand in the text. -/
theorem colorsOf_of_ofText {text : List Char} {s : Stylesheet} (h : ofText text = .ok s) :
    ∃ t, Toml.read text = .ok (.table t) ∧ ColorsOf t s.colors := by
  unfold ofText at h
  split at h
  · cases h
  · rename_i root hroot
    obtain ⟨t,rfl,ht⟩ := Toml.keysOnce_read hroot
    split at h
    · cases h
    · rename_i sheet hsheet
      obtain rfl : sheet = s := Except.ok.inj h
      exact ⟨t,hroot,colorsOf_of_read ht hsheet⟩

end Stylesheet
end Blueprint
