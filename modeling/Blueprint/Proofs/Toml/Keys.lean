import Blueprint.Proofs.Document.Record
import Blueprint.Toml.Reader
import Mathlib.Data.List.Nodup

/-!
The keys of tables. Whatever a text defines, and by whatever headers and dotted keys its tables come
about, no table that is read has a key twice.
-/

namespace Blueprint.Toml

open Document (Fault Cursor Node exists_of_bind exists_of_map)

/-! ### Entries -/

section Entries

variable {ι : Type} {entries : List (Key × ι)} {key : Key} {value : ι} {name : String}

/-- The names of keys, in order. -/
def names (entries : List (Key × ι)) : List String := entries.map (·.1.text)

theorem mem_of_findEntry (h : findEntry? name entries = some value) :
    ∃ e ∈ entries, e.2 = value := by
  induction entries with
  | nil => cases h
  | cons e rest ih =>
    unfold findEntry? at h
    split at h
    · exact ⟨e,List.mem_cons_self,Option.some.inj h⟩
    · obtain ⟨e',he',hvalue⟩ := ih h
      exact ⟨e',List.mem_cons_of_mem e he',hvalue⟩

theorem names_putEntry : names (putEntry key value entries) =
    if key.text ∈ names entries then names entries else names entries ++ [key.text] := by
  induction entries with
  | nil => rfl
  | cons e rest ih =>
    by_cases h : e.1.text = key.text
    · simp [putEntry,names,h]
    · have hrest : names (putEntry key value (e :: rest)) =
          e.1.text :: names (putEntry key value rest) := by simp [putEntry,names,h]
      have hnames : names (e :: rest) = e.1.text :: names rest := rfl
      rw [hrest,ih,hnames]
      simp only [List.mem_cons,Ne.symm h,false_or]
      split <;> rfl

theorem mem_putEntry {e : Key × ι} (h : e ∈ putEntry key value entries) :
    e.2 = value ∨ e ∈ entries := by
  induction entries with
  | nil => exact Or.inl (congrArg Prod.snd (List.mem_singleton.mp h))
  | cons e' rest ih =>
    rw [putEntry] at h
    split at h
    · rcases List.mem_cons.mp h with rfl | h
      · exact Or.inl rfl
      · exact Or.inr (List.mem_cons_of_mem e' h)
    · rcases List.mem_cons.mp h with rfl | h
      · exact Or.inr List.mem_cons_self
      · exact (ih h).imp_right (List.mem_cons_of_mem e')

end Entries

/-! ### Tables -/

/-- No table in the item has a key twice. -/
inductive Item.KeysOnce : Item → Prop where
  | scalar (span : Document.Span) (s : Scalar) : KeysOnce (.scalar span s)
  | array (span : Document.Span) {items : List Item} (h : ∀ i ∈ items, KeysOnce i) :
    KeysOnce (.array span items)
  | tables (span : Option Document.Span) {items : List Item} (h : ∀ i ∈ items, KeysOnce i) :
    KeysOnce (.tables span items)
  | table (head : Head) {entries : List (Key × Item)} (hnames : (names entries).Nodup)
    (h : ∀ e ∈ entries, KeysOnce e.2) : KeysOnce (.table ⟨head,entries⟩)

open Item (KeysOnce)

theorem Item.keysOnce_table_iff {t : Table} :
    KeysOnce (.table t) ↔ (names t.entries).Nodup ∧ ∀ e ∈ t.entries, KeysOnce e.2 := by
  constructor
  · rintro ⟨⟩
    exact ⟨by assumption,by assumption⟩
  · rintro ⟨hnames,h⟩
    exact .table t.head hnames h

theorem Item.KeysOnce.of_tables {span : Option Document.Span} {items : List Item}
    (h : KeysOnce (.tables span items)) : ∀ i ∈ items, KeysOnce i := by
  cases h
  assumption

section Table

variable {t : Table} {key : Key} {i : Item} {name : String}

theorem keysOnce_of_find? (ht : KeysOnce (.table t)) (h : t.find? name = some i) : KeysOnce i := by
  obtain ⟨e,he,rfl⟩ := mem_of_findEntry h
  exact (Item.keysOnce_table_iff.mp ht).2 e he

theorem keysOnce_put (ht : KeysOnce (.table t)) (hi : KeysOnce i) :
    KeysOnce (.table (t.put key i)) := by
  obtain ⟨hnames,hitems⟩ := Item.keysOnce_table_iff.mp ht
  refine .table t.head ?_ fun e he => ?_
  · rw [names_putEntry]
    split
    · exact hnames
    · rename_i hnot
      exact List.nodup_append_comm.mp (List.nodup_cons.mpr ⟨hnot,hnames⟩)
  · rcases mem_putEntry he with rfl | he
    · exact hi
    · exact hitems e he

theorem keysOnce_erase (ht : KeysOnce (.table t)) : KeysOnce (.table (t.erase name)) := by
  obtain ⟨hnames,hitems⟩ := Item.keysOnce_table_iff.mp ht
  exact .table t.head (hnames.sublist (List.filter_sublist.map _))
    fun e he => hitems e (List.mem_of_mem_filter he)

theorem keysOnce_blank (head : Head) : KeysOnce (.table ⟨head,[]⟩) :=
  .table head List.nodup_nil (by simp)

/-- A change of the table at the end of a path leaves the tables on the way as they should be, and
finds what it finds in that table. -/
theorem keysOnce_descend {γ : Type} {inBraces dotted : Bool}
    {change : Table → Except Clash (γ × Table)} {P : γ → Prop}
    (hchange : ∀ {t : Table} {found : γ} {t' : Table}, KeysOnce (.table t) →
      change t = .ok (found,t') → P found ∧ KeysOnce (.table t'))
    {behind path : List Key} {found : γ} {t' : Table} (ht : KeysOnce (.table t))
    (h : descend inBraces dotted change behind path t = .ok (found,t')) :
    P found ∧ KeysOnce (.table t') := by
  induction path generalizing behind t found t' with
  | nil => exact hchange ht h
  | cons key path ih =>
    rw [descend] at h
    split at h
    · obtain ⟨⟨_,child⟩,hchild,h⟩ := exists_of_bind h
      obtain ⟨rfl,rfl⟩ := Prod.mk.inj (Except.ok.inj h)
      exact (ih (keysOnce_blank _) hchild).imp_right (keysOnce_put ht)
    · rename_i child hfind
      split at h
      · cases h
      · split at h
        · cases h
        · obtain ⟨⟨_,child'⟩,hchild,h⟩ := exists_of_bind h
          obtain ⟨rfl,rfl⟩ := Prod.mk.inj (Except.ok.inj h)
          exact (ih (keysOnce_of_find? ht hfind) hchild).imp_right (keysOnce_put ht)
    · rename_i span items hfind
      have hitems := (keysOnce_of_find? ht hfind).of_tables
      split at h
      · rename_i last hlast
        obtain ⟨⟨_,last'⟩,hlast',h⟩ := exists_of_bind h
        obtain ⟨rfl,rfl⟩ := Prod.mk.inj (Except.ok.inj h)
        refine (ih (hitems _ (List.mem_of_getLast? hlast)) hlast').imp_right fun hnew => ?_
        refine keysOnce_put ht (.tables span (List.forall_mem_append.mpr ⟨fun i hi => ?_,?_⟩))
        · exact hitems i ((List.dropLast_sublist items).subset hi)
        · simpa using hnew
      · cases h
    · cases h

theorem keysOnce_define {inBraces : Bool} {home : Option (List String)} {path : List Key}
    {t' : Table} (ht : KeysOnce (.table t)) (hi : KeysOnce i)
    (h : define inBraces home path key i t = .ok t') : KeysOnce (.table t') := by
  obtain ⟨⟨_,_⟩,hdescend,rfl⟩ := exists_of_map h
  refine (keysOnce_descend (P := fun _ => True) (fun ht hadd => ?_) ht hdescend).2
  split at hadd
  · cases hadd
  · split at hadd
    · cases hadd
    · obtain ⟨_,rfl⟩ := Prod.mk.inj (Except.ok.inj hadd)
      exact ⟨trivial,keysOnce_put ht hi⟩

end Table

/-! ### Values -/

theorem keysOnce_inlineTable {span : Document.Span} {members : List (List Key × Key × Item)}
    {t : Table} (h : ∀ m ∈ members, KeysOnce m.2.2) (hread : inlineTable span members = .ok t) :
    KeysOnce (.table t) := by
  unfold inlineTable at hread
  generalize hstart : (⟨⟨some span,true,false,false⟩,[]⟩ : Table) = start at hread
  have hkeys : KeysOnce (.table start) := hstart ▸ keysOnce_blank _
  clear hstart
  induction members generalizing start with
  | nil =>
    obtain rfl : start = t := Except.ok.inj hread
    exact hkeys
  | cons m members ih =>
    obtain ⟨hm,h⟩ := List.forall_mem_cons.mp h
    obtain ⟨next,hnext,hread⟩ := exists_of_bind hread
    exact ih h next hread (keysOnce_define hkeys hm hnext)

/-- What is read at a place with some fuel, whether it is a value, items or members. -/
structure KeysOnceWithin (fuel : Nat) : Prop where
  value : ∀ {depth : Nat} {c next : Cursor} {i : Item},
    valueAt fuel depth c = .ok (i,next) → KeysOnce i
  items : ∀ {depth : Nat} {c next : Cursor} {items : List Item},
    arrayItems fuel depth c = .ok (items,next) → ∀ i ∈ items, KeysOnce i
  members : ∀ {depth : Nat} {first : Bool} {c next : Cursor}
    {members : List (List Key × Key × Item)},
    inlineMembers fuel depth first c = .ok (members,next) → ∀ m ∈ members, KeysOnce m.2.2

theorem keysOnceWithin (fuel : Nat) : KeysOnceWithin fuel := by
  induction fuel with
  | zero => exact ⟨nofun,nofun,nofun⟩
  | succ fuel ih =>
    -- The readers of values, items and members call one another with a unit of fuel less.
    refine ⟨fun {depth c next i} h => ?_,fun {depth c next items} h => ?_,
      fun {depth first c next members} h => ?_⟩
    · rw [valueAt] at h
      split at h
      · split at h
        · cases h
        · obtain ⟨⟨items,_⟩,hitems,h⟩ := exists_of_bind h
          obtain ⟨rfl,_⟩ := Prod.mk.inj (Except.ok.inj h)
          exact .array _ (ih.items hitems)
      · split at h
        · cases h
        · obtain ⟨⟨members,_⟩,hmembers,h⟩ := exists_of_bind h
          dsimp only at h
          split at h
          · rename_i t ht
            obtain ⟨rfl,_⟩ := Prod.mk.inj (Except.ok.inj h)
            exact keysOnce_inlineTable (ih.members hmembers) ht
          · cases h
      · obtain ⟨⟨s,_⟩,_,h⟩ := exists_of_bind h
        obtain ⟨rfl,_⟩ := Prod.mk.inj (Except.ok.inj h)
        exact .scalar _ s
    · rw [arrayItems] at h
      dsimp only at h
      split at h
      · obtain ⟨rfl,_⟩ := Prod.mk.inj (Except.ok.inj h)
        simp
      · obtain ⟨⟨first,_⟩,hfirst,h⟩ := exists_of_bind h
        have hfirst := ih.value hfirst
        dsimp only at h
        split at h
        · obtain ⟨⟨rest,_⟩,hrest,h⟩ := exists_of_bind h
          obtain ⟨rfl,_⟩ := Prod.mk.inj (Except.ok.inj h)
          exact List.forall_mem_cons.mpr ⟨hfirst,ih.items hrest⟩
        · obtain ⟨rfl,_⟩ := Prod.mk.inj (Except.ok.inj h)
          simpa using hfirst
        · cases h
    · unfold inlineMembers at h
      dsimp only at h
      split at h
      · obtain ⟨rfl,_⟩ := Prod.mk.inj (Except.ok.inj h)
        simp
      · obtain ⟨⟨⟨path,key⟩,_⟩,_,h⟩ := exists_of_bind h
        dsimp only at h
        split at h
        · obtain ⟨⟨value,_⟩,hvalue,h⟩ := exists_of_bind h
          have hvalue := ih.value hvalue
          dsimp only at h
          split at h
          · obtain ⟨⟨rest,_⟩,hrest,h⟩ := exists_of_bind h
            obtain ⟨rfl,_⟩ := Prod.mk.inj (Except.ok.inj h)
            exact List.forall_mem_cons.mpr ⟨hvalue,ih.members hrest⟩
          · obtain ⟨rfl,_⟩ := Prod.mk.inj (Except.ok.inj h)
            simpa using hvalue
          · cases h
        · cases h

theorem keysOnce_value {c next : Cursor} {i : Item} (h : value c = .ok (i,next)) : KeysOnce i :=
  (keysOnceWithin _).value h

/-! ### Documents -/

/-- The entries of a table that has no key twice, nor a table in it. -/
def EntriesOnce (entries : List (Key × Item)) : Prop :=
  (names entries).Nodup ∧ ∀ e ∈ entries, KeysOnce e.2

theorem entriesOnce_nil : EntriesOnce [] := ⟨List.nodup_nil,by simp⟩

/-- What a header takes up has no key twice, and neither has what it leaves. -/
theorem keysOnce_claim {p : Place} {t t' : Table} {entries : List (Key × Item)}
    (ht : KeysOnce (.table t)) (h : p.claim t = .ok (entries,t')) :
    EntriesOnce entries ∧ KeysOnce (.table t') := by
  unfold Place.claim at h
  split at h
  · obtain ⟨rfl,rfl⟩ := Prod.mk.inj (Except.ok.inj h)
    exact ⟨entriesOnce_nil,keysOnce_put ht (.tables none (by simp))⟩
  · obtain ⟨rfl,rfl⟩ := Prod.mk.inj (Except.ok.inj h)
    exact ⟨entriesOnce_nil,ht⟩
  · obtain ⟨rfl,rfl⟩ := Prod.mk.inj (Except.ok.inj h)
    exact ⟨entriesOnce_nil,ht⟩
  · rename_i child _ hfind
    split at h
    · obtain ⟨rfl,rfl⟩ := Prod.mk.inj (Except.ok.inj h)
      exact ⟨Item.keysOnce_table_iff.mp (keysOnce_of_find? ht hfind),keysOnce_erase ht⟩
    · cases h
  · cases h

/-- The tables of a draft have no key twice. -/
structure Draft.KeysOnce (d : Draft) : Prop where
  root : Item.KeysOnce (.table d.root)
  current : Item.KeysOnce (.table d.current)

namespace Draft.KeysOnce

variable {d d' : Draft} {t : Table}

theorem blank : Draft.blank.KeysOnce := ⟨keysOnce_blank _,keysOnce_blank _⟩

theorem close (h : d.KeysOnce) (hclose : d.close = .ok t) : Item.KeysOnce (.table t) := by
  unfold Draft.close at hclose
  split at hclose
  · obtain rfl : d.current = t := Except.ok.inj hclose
    exact h.current
  · obtain ⟨⟨_,_⟩,hdescend,rfl⟩ := exists_of_map hclose
    refine (keysOnce_descend (P := fun _ => True) (fun ht hadd => ?_) h.root hdescend).2
    split at hadd
    · rename_i hfind
      obtain ⟨_,rfl⟩ := Prod.mk.inj (Except.ok.inj hadd)
      have hitems := (keysOnce_of_find? ht hfind).of_tables
      refine ⟨trivial,keysOnce_put ht (.tables _ (List.forall_mem_append.mpr ⟨hitems,?_⟩))⟩
      simpa using h.current
    · obtain ⟨_,rfl⟩ := Prod.mk.inj (Except.ok.inj hadd)
      exact ⟨trivial,keysOnce_put ht h.current⟩
    · cases hadd

theorem openAt {span : Document.Span} {p : Place} (ht : Item.KeysOnce (.table t))
    (h : Draft.openAt t span p = .ok d) : d.KeysOnce := by
  obtain ⟨⟨entries,root⟩,hdescend,h⟩ := exists_of_bind h
  obtain rfl := Except.ok.inj h
  obtain ⟨⟨hnames,hentries⟩,hroot⟩ := keysOnce_descend keysOnce_claim ht hdescend
  exact ⟨hroot,.table _ hnames hentries⟩

/-- A value that is defined brings tables of its own. -/
theorem apply {s : Statement} (h : d.KeysOnce)
    (hvalue : ∀ {path key value}, s = .entry path key value → Item.KeysOnce value)
    (happly : d.apply s = .ok d') : d'.KeysOnce := by
  cases s with
  | entry path key value =>
    obtain ⟨t,hdefine,happly⟩ := exists_of_bind happly
    obtain rfl := Except.ok.inj happly
    obtain ⟨hnames,hentries⟩ := Item.keysOnce_table_iff.mp h.current
    exact ⟨h.root,keysOnce_define (.table _ hnames hentries) (hvalue rfl) hdefine⟩
  | header span several path key =>
    obtain ⟨t,hclose,happly⟩ := exists_of_bind happly
    exact openAt (h.close hclose) happly

end Draft.KeysOnce

theorem keysOnce_entryAt {c next : Cursor} {path : List Key} {key : Key} {i : Item}
    (h : entryAt c = .ok (.entry path key i,next)) : KeysOnce i := by
  obtain ⟨⟨⟨_,_⟩,_⟩,_,h⟩ := exists_of_bind h
  dsimp only at h
  split at h
  · obtain ⟨⟨_,_⟩,hvalue,h⟩ := exists_of_bind h
    obtain ⟨_,_,h⟩ := exists_of_bind h
    obtain ⟨hentry,_⟩ := Prod.mk.inj (Except.ok.inj h)
    injection hentry with _ _ hitem
    exact hitem ▸ keysOnce_value hvalue
  · cases h

theorem headerAt_ne_entry {start c next : Cursor} {several : Bool} {path : List Key} {key : Key}
    {i : Item} : headerAt start several c ≠ .ok (.entry path key i,next) := by
  intro h
  obtain ⟨⟨⟨_,_⟩,_⟩,_,h⟩ := exists_of_bind h
  dsimp only at h
  split at h
  · obtain ⟨_,_,h⟩ := exists_of_bind h
    cases h
  · cases h

theorem keysOnce_statementAt {c next : Cursor} {path : List Key} {key : Key} {i : Item}
    (h : statementAt c = .ok (some (.entry path key i),next)) : KeysOnce i := by
  have hone {r : Except Fault (Statement × Cursor)}
      (h : (r.map fun s => (some s.1,s.2)) = .ok (some (.entry path key i),next)) :
      r = .ok (.entry path key i,next) := by
    obtain ⟨⟨s,next'⟩,rfl,hpair⟩ := exists_of_map h
    simpa using hpair
  unfold statementAt at h
  split at h
  · exact absurd (hone h) headerAt_ne_entry
  · exact absurd (hone h) headerAt_ne_entry
  iterate 3
    obtain ⟨_,_,h⟩ := exists_of_map h
    cases h
  · exact keysOnce_entryAt (hone h)

theorem keysOnce_readLines {fuel : Nat} {d : Draft} {c : Cursor} {t : Table} (hd : d.KeysOnce)
    (h : readLines fuel d c = .ok t) : KeysOnce (.table t) := by
  induction fuel generalizing d c with
  | zero => cases h
  | succ fuel ih =>
    rw [readLines] at h
    dsimp only at h
    split at h
    · split at h
      · rename_i root hclose
        obtain rfl : root = t := Except.ok.inj h
        exact hd.close hclose
      · cases h
    · obtain ⟨⟨statement,next⟩,hstatement,h⟩ := exists_of_bind h
      dsimp only at h
      split at h
      · exact ih hd h
      · split at h
        · rename_i s _ d' happly
          exact ih (hd.apply (fun hs => keysOnce_statementAt (hs ▸ hstatement)) happly) h
        · cases h

/-- A text is a table, and no table of it has a key twice. -/
theorem keysOnce_read {text : List Char} {root : Item} (h : read text = .ok root) :
    ∃ t, root = .table t ∧ KeysOnce (.table t) := by
  obtain ⟨t,hread,rfl⟩ := exists_of_map h
  exact ⟨t,rfl,keysOnce_readLines .blank hread⟩

/-! ### Members -/

theorem keys_memberNodes (place : Option Document.Span) (entries : List (Key × Item)) :
    (memberNodes place entries).map (·.key) = (names entries).map .ok := by
  induction entries with
  | nil => rfl
  | cons e entries ih => exact congrArg _ ih

/-- A table that is read off an item has each key once. -/
theorem nodup_keys_of_asTable {β : Type} {read : Node → Except Fault β} {i : Item}
    {bs : List (String × β)} (hi : KeysOnce i) (h : i.node.asTable read = .ok bs) :
    (bs.map (·.1)).Nodup := by
  cases i with
  | scalar span s =>
    rw [Item.node] at h
    cases s with
    | date text =>
      have hkeys : bs.map (·.1) = [dateKey] := Node.keys_of_asTable h rfl
      rw [hkeys]
      exact List.nodup_singleton dateKey
    | _ => cases h
  | table t =>
    obtain ⟨head,entries⟩ := t
    rw [Item.node] at h
    rw [Node.keys_of_asTable h (keys_memberNodes _ entries)]
    exact (Item.keysOnce_table_iff.mp hi).1
  | _ =>
    rw [Item.node] at h
    cases h

end Blueprint.Toml
