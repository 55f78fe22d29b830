import Blueprint.Document.Record

/-!
What is known of a record that is read. Whatever holds of the blank draft, and is kept by each field
that is read, holds of the draft that the record is made of. It does not matter whether the fields
stand in a table or in a list, nor in which order.
-/

namespace Blueprint.Document

theorem exists_of_bind {ε β γ : Type} {x : Except ε β} {f : β → Except ε γ} {c : γ}
    (h : x >>= f = .ok c) : ∃ b, x = .ok b ∧ f b = .ok c := by
  cases x with
  | ok b => exact ⟨b,rfl,h⟩
  | error f => cases h

theorem exists_of_map {ε β γ : Type} {x : Except ε β} {f : β → γ} {c : γ} (h : x.map f = .ok c) :
    ∃ b, x = .ok b ∧ f b = c := by
  cases x with
  | ok b => exact ⟨b,rfl,Except.ok.inj h⟩
  | error f => cases h

theorem eq_of_within {β : Type} {place : Option Span} {x : Except Fault β} {b : β}
    (h : within place x = .ok b) : x = .ok b := by
  cases x with
  | ok c => exact h
  | error f => cases h

theorem Node.exists_of_readItems {β : Type} {read : Node → Except Fault β}
    {items : List (Item Node)} {bs : List β} (h : readItems read items = .ok bs) :
    ∀ b ∈ bs, ∃ n, read n = .ok b := by
  induction items generalizing bs with
  | nil =>
    obtain rfl : [] = bs := Except.ok.inj h
    simp
  | cons item items ih =>
    obtain ⟨b,hb,h⟩ := exists_of_bind h
    obtain ⟨rest,hrest,h⟩ := exists_of_bind h
    obtain rfl : b :: rest = bs := Except.ok.inj h
    exact List.forall_mem_cons.mpr ⟨⟨item.node,eq_of_within hb⟩,ih hrest⟩

/-- Each item of a list is read off some node. -/
theorem Node.exists_of_asList {β : Type} {read : Node → Except Fault β} {n : Node} {bs : List β}
    (h : n.asList read = .ok bs) : ∀ b ∈ bs, ∃ n, read n = .ok b := by
  cases n with
  | list mark items ending =>
    obtain ⟨bs',hitems,h⟩ := exists_of_bind h
    obtain ⟨_,_,h⟩ := exists_of_bind h
    obtain rfl : bs' = bs := Except.ok.inj h
    exact exists_of_readItems hitems
  | _ => cases h

theorem Node.keys_of_readValues {β : Type} {read : Node → Except Fault β}
    {members : List (Member Node)} {bs : List (String × β)}
    (h : readValues read members = .ok bs) : members.map (·.key) = (bs.map (·.1)).map .ok := by
  induction members generalizing bs with
  | nil =>
    obtain rfl : [] = bs := Except.ok.inj h
    rfl
  | cons m members ih =>
    obtain ⟨key,hkey,h⟩ := exists_of_bind h
    obtain ⟨b,_,h⟩ := exists_of_bind h
    obtain ⟨rest,hrest,h⟩ := exists_of_bind h
    obtain rfl : (key,b) :: rest = bs := Except.ok.inj h
    rw [List.map_cons,eq_of_within hkey,ih hrest]
    rfl

/-- The keys of a table are the ones that are written, in order. -/
theorem Node.keys_of_asTable {β : Type} {read : Node → Except Fault β} {mark : Mark}
    {members : List (Member Node)} {ending : Ending} {bs : List (String × β)} {keys : List String}
    (h : (Node.table mark members ending).asTable read = .ok bs)
    (hkeys : members.map (·.key) = keys.map .ok) : bs.map (·.1) = keys := by
  obtain ⟨bs',hbs,h⟩ := exists_of_bind h
  obtain ⟨_,_,h⟩ := exists_of_bind h
  obtain rfl : bs' = bs := Except.ok.inj h
  exact (List.map_inj_right fun _ _ => Except.ok.inj).mp
    ((keys_of_readValues hbs).symm.trans hkeys)

variable {δ β : Type} {P : δ → Prop}

/-- What holds of a draft still holds once the field is read, whatever node it is read off. -/
def RecordField.Keeps (f : RecordField δ) (P : δ → Prop) : Prop :=
  ∀ ⦃d n d'⦄, P d → f.set d n = .ok d' → P d'

theorem RecordField.keeps_of {γ : Type} {name : String} {otherName : Option String}
    {optional : Bool} {get : δ → Option γ} {put : δ → γ → δ} {read : Node → Except Fault γ}
    (h : ∀ d n c, P d → read n = .ok c → P (put d c)) :
    (RecordField.of name otherName optional get put read).Keeps P := by
  intro d n d' hd hset
  obtain ⟨c,hread,rfl⟩ := exists_of_map hset
  exact h d n c hd hread

namespace Record

variable {r : Record δ β}

theorem keeps_readMember (h : ∀ f ∈ r.fields, f.Keeps P) {d d' : δ} {m : Member Node}
    (hd : P d) (hm : r.readMember d m = .ok d') : P d' := by
  obtain ⟨key,_,hm⟩ := exists_of_bind hm
  split at hm
  · obtain ⟨_,_,hm⟩ := exists_of_bind hm
    obtain rfl : d = d' := Except.ok.inj hm
    exact hd
  · rename_i f hf
    split at hm
    · cases hm
    · exact h f (List.mem_of_find?_eq_some hf) hd (eq_of_within hm)

theorem keeps_readMembers (h : ∀ f ∈ r.fields, f.Keeps P) {d d' : δ}
    {members : List (Member Node)} (hd : P d) (hm : r.readMembers d members = .ok d') : P d' := by
  induction members generalizing d with
  | nil =>
    obtain rfl : d = d' := Except.ok.inj hm
    exact hd
  | cons m members ih =>
    obtain ⟨next,hnext,hm⟩ := exists_of_bind hm
    exact ih (keeps_readMember h hd hnext) hm

theorem keeps_readFields {total done : Nat} {ending : Ending} {fields : List (RecordField δ)}
    (h : ∀ f ∈ fields, f.Keeps P) {d d' : δ} {items : List (Item Node)} (hd : P d)
    (hread : r.readFields total ending done d fields items = .ok d') : P d' := by
  induction fields generalizing d done items with
  | nil =>
    obtain ⟨_,_,hread⟩ := exists_of_bind (show Node.surplusOf items ending >>= _ = _ from hread)
    obtain rfl : d = d' := Except.ok.inj hread
    exact hd
  | cons f fields ih =>
    obtain ⟨hf,hfields⟩ := List.forall_mem_cons.mp h
    cases items with
    | nil =>
      unfold readFields at hread
      split at hread
      · cases hread
      · split at hread
        · exact ih hfields hd hread
        · cases hread
    | cons item items =>
      obtain ⟨next,hnext,hread⟩ := exists_of_bind hread
      exact ih hfields (hf hd (eq_of_within hnext)) hread

theorem finish_of_conclude {d : δ} {place : Option Span} {b : β} (h : r.conclude d place = .ok b) :
    r.finish d = .ok b := by
  unfold conclude at h
  split at h
  · rename_i c hc
    rw [hc]
    exact congrArg _ (Except.ok.inj h)
  · cases h

/-- What holds of the draft that a record is made of. -/
theorem exists_of_read (hblank : P r.blank) (h : ∀ f ∈ r.fields, f.Keeps P) {n : Node} {b : β}
    (hread : r.read n = .ok b) : ∃ d, P d ∧ r.finish d = .ok b := by
  cases n with
  | table mark members ending =>
    obtain ⟨d,hd,hread⟩ := exists_of_bind hread
    split at hread
    · cases hread
    · exact ⟨d,keeps_readMembers h hblank hd,finish_of_conclude hread⟩
  | list mark items ending =>
    obtain ⟨d,hd,hread⟩ := exists_of_bind hread
    exact ⟨d,keeps_readFields h hblank hd,finish_of_conclude hread⟩
  | _ => cases hread

end Record

end Blueprint.Document
