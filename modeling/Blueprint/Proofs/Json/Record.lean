import Blueprint.Document.Record
import Blueprint.Proofs.Json.Tree

/-!
Records read off the trees of written values. A record is read off an object that has its fields as
members, in any order, each once; a member that is left out leaves the field as it is.
-/

namespace Blueprint

open Document (Node Fault Member Record RecordField)
open Json (Value Shows)

/-! ### Nodes that show values -/

namespace Json.Shows

variable {n : Node}

theorem asString {s : String} (h : Shows (.string s) n) : n.asString = .ok s := by
  cases h
  rfl

theorem asFloat {x : Float} (h : Shows (.float x) n) : n.asFloat = .ok x := by
  cases h
  assumption

/-- A name is read as the first value of the name. -/
theorem asVariant {β : Type} {all : List β} {name : β → String} {b : β}
    (h : Shows (.string (name b)) n) (hfind : all.find? (name · == name b) = some b) :
    n.asVariant all name = .ok b := by
  cases h with
  | string hvariant => simp [Node.asVariant,Node.mark,hvariant,hfind]

/-- No value is nothing. -/
theorem asOption {β : Type} {read : Node → Except Fault β} {v : Value} {b : β} (h : Shows v n)
    (hread : read n = .ok b) : n.asOption read = .ok (some b) := by
  have hsome : n.asOption read = (read n).map some := by
    cases h with
    | float hfloat =>
      cases n with
      | null => cases hfloat
      | _ => rfl
    | _ => rfl
  rw [hsome,hread]
  rfl

theorem asPair {x y : Float} (h : Shows (.array [.float x,.float y]) n) :
    n.asPair = .ok (x,y) := by
  cases h with
  | array h =>
    cases h with
    | cons hx h =>
      cases h with
      | cons hy h =>
        cases h
        simp only [Node.asPair,hx.asFloat,hy.asFloat]
        rfl

theorem readItems {β : Type} {read : Node → Except Fault β} {f : β → Value} {bs : List β}
    {items : List (Document.Item Node)}
    (h : List.Forall₂ (fun v (item : Document.Item Node) => Shows v item.node) (bs.map f) items)
    (hread : ∀ b ∈ bs, ∀ n, Shows (f b) n → read n = .ok b) :
    Node.readItems read items = .ok bs := by
  induction bs generalizing items with
  | nil =>
    cases h
    rfl
  | cons b bs ih =>
    cases h with
    | cons hb h =>
      rw [Node.readItems,hread b List.mem_cons_self _ hb,
        ih h fun c hc => hread c (List.mem_cons_of_mem b hc)]
      rfl

theorem asList {β : Type} {read : Node → Except Fault β} {f : β → Value} {bs : List β}
    (h : Shows (.array (bs.map f)) n) (hread : ∀ b ∈ bs, ∀ n, Shows (f b) n → read n = .ok b) :
    n.asList read = .ok bs := by
  cases h with
  | array h =>
    rw [Node.asList,readItems h hread]
    rfl

end Json.Shows

/-! ### Records -/

namespace Document.Record

variable {δ β : Type} {r : Record δ β} {ms : List (String × Value)} {d d' : δ}

/-- Members that show some values are read into a draft. -/
def Reads (r : Record δ β) (ms : List (String × Value)) (d d' : δ) : Prop :=
  ∀ members : List (Member Node), members.map (·.key) = ms.map (fun m => .ok m.1) →
    List.Forall₂ (fun m (member : Member Node) => Shows m.2 member.node) ms members →
      r.readMembers d members = .ok d'

theorem Reads.nil : r.Reads [] d d := by
  intro members _ h
  cases h
  rfl

/-- A member fills the field that answers to its key. -/
theorem Reads.cons {γ : Type} {key name : String} {otherName : Option String} {optional : Bool}
    {get : δ → Option γ} {put : δ → γ → δ} {read : Node → Except Fault γ} {v : Value} {c : γ}
    (hfield : r.fields.find? (·.answersTo key) =
      some (.of name otherName optional get put read))
    (hblank : get d = none) (hread : ∀ n, Shows v n → read n = .ok c)
    (hrest : r.Reads ms (put d c) d') : r.Reads ((key,v) :: ms) d d' := by
  intro members hkeys h
  cases h with
  | @cons _ member _ members hv h =>
    obtain ⟨hkey,hkeys⟩ := List.cons.inj hkeys
    have hmember : r.readMember d member = .ok (put d c) := by
      have hkey : member.key = .ok key := hkey
      unfold readMember
      rw [hkey]
      simp only [within,bind,Except.bind,hfield,RecordField.of,hblank,hread member.node hv]
      rfl
    rw [readMembers,hmember]
    exact hrest members hkeys h

/-- A member that may be left out. -/
theorem Reads.optional {γ : Type} {key name : String} {otherName : Option String} {optional : Bool}
    {get : δ → Option (Option γ)} {put : δ → Option γ → δ} {read : Node → Except Fault γ}
    {f : γ → Value} {o : Option γ} (next : δ)
    (hfield : r.fields.find? (·.answersTo key) =
      some (.of name otherName optional get put (Node.asOption read)))
    (hblank : get d = none) (hnext : next = o.elim d fun c => put d (some c))
    (hread : ∀ c n, Shows (f c) n → read n = .ok c) (hrest : r.Reads ms next d') :
    r.Reads (Json.optional key f o ++ ms) d d' := by
  subst hnext
  cases o with
  | none => exact hrest
  | some c => exact Reads.cons hfield hblank (fun n hn => hn.asOption (hread c n hn)) hrest

/-- A record is read off an object whose members fill its draft. -/
theorem read_of_reads {b : β} {n : Node} (hreads : r.Reads ms r.blank d)
    (hfinish : r.finish d = .ok b) (h : Shows (.object ms) n) : r.read n = .ok b := by
  cases h with
  | object hkeys h =>
    rw [read,hreads _ hkeys h]
    simp only [bind,Except.bind,conclude,hfinish]

end Document.Record

end Blueprint
