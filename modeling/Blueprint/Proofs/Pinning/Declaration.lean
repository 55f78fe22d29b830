import Blueprint.Layout.Rooms
import Mathlib.Data.List.Induction
import Mathlib.Data.List.Nodup

/-!
First and later declarations. The table of a list of blocks keeps the first block of each id, in
the order of the list; every later block of an id is told as a duplicate.
-/

namespace Blueprint

/-! ### Looking up by key -/

section Key

variable {β κ : Type} [BEq κ] [LawfulBEq κ] {key : β → κ} {l l' : List β}

/-- Where keys are distinct, the first item of a key is the one item that has it. -/
theorem find?_key_eq_some_iff (hd : (l.map key).Nodup) {k : κ} {b : β} :
    l.find? (key · == k) = some b ↔ b ∈ l ∧ key b = k := by
  constructor
  · intro h
    exact ⟨List.mem_of_find?_eq_some h,by simpa using List.find?_some h⟩
  · rintro ⟨hb,rfl⟩
    cases h : l.find? (key · == key b) with
    | none => exact absurd (beq_self_eq_true _) (List.find?_eq_none.mp h b hb)
    | some c =>
      have hc : key c = key b := by simpa using List.find?_some h
      rw [List.inj_on_of_nodup_map hd (List.mem_of_find?_eq_some h) hb hc]

/-- Where keys are distinct, a look-up does not see the order. -/
theorem find?_key_of_perm (h : l'.Perm l) (hd : (l.map key).Nodup) (k : κ) :
    l'.find? (key · == k) = l.find? (key · == k) := by
  have hd' : (l'.map key).Nodup := (h.map key).nodup_iff.mpr hd
  refine Option.ext fun b => ?_
  rw [find?_key_eq_some_iff hd',find?_key_eq_some_iff hd,h.mem_iff]

/-- Lists with the same distinct keys are equal if one holds all members of the other. -/
theorem eq_of_subset_of_keys {κ β : Type} {l m : List (κ × β)} (hd : (l.map (·.1)).Nodup)
    (hkeys : m.map (·.1) = l.map (·.1)) (h : ∀ p ∈ m, p ∈ l) : m = l := by
  have hlen : m.length = l.length := by simpa using congrArg List.length hkeys
  refine List.ext_getElem hlen fun i hm hl => ?_
  have hkey : m[i].1 = l[i].1 := by
    have hi := congrArg (·[i]?) hkeys
    simpa [hm,hl] using hi
  exact List.inj_on_of_nodup_map hd (h _ (List.getElem_mem hm)) (List.getElem_mem hl) hkey

end Key

namespace Pinning

variable {α : Type}

/-- The ids of some blocks, in order. -/
def ids (blocks : List (Block α)) : List String := blocks.map (·.id)

@[simp] theorem ids_nil : ids ([] : List (Block α)) = [] := rfl

@[simp] theorem ids_cons (b : Block α) (blocks : List (Block α)) :
    ids (b :: blocks) = b.id :: ids blocks := rfl

@[simp] theorem ids_append (as bs : List (Block α)) : ids (as ++ bs) = ids as ++ ids bs := by
  simp [ids]

@[simp] theorem length_ids (blocks : List (Block α)) : (ids blocks).length = blocks.length := by
  simp [ids]

theorem mem_ids {blocks : List (Block α)} {id : String} :
    id ∈ ids blocks ↔ ∃ b ∈ blocks, b.id = id := List.mem_map

theorem mem_ids_of_mem {blocks : List (Block α)} {b : Block α} (h : b ∈ blocks) :
    b.id ∈ ids blocks := mem_ids.mpr ⟨b,h,rfl⟩

theorem any_id {blocks : List (Block α)} {id : String} :
    blocks.any (·.id == id) = true ↔ id ∈ ids blocks := by
  simp [mem_ids]

theorem ids_filter (blocks : List (Block α)) (p : String → Bool) :
    ids (blocks.filter fun b => p b.id) = (ids blocks).filter p := by
  rw [ids,ids,List.filter_map]
  rfl

/-! ### Looking up a block -/

theorem isSome_declared? {table : List (Block α)} {id : String} :
    (declared? table id).isSome ↔ id ∈ ids table := by
  simp [declared?,mem_ids]

theorem declared?_eq_none {table : List (Block α)} {id : String} :
    declared? table id = none ↔ id ∉ ids table := by
  simp [declared?,mem_ids]

theorem mem_of_declared? {table : List (Block α)} {id : String} {b : Block α}
    (h : declared? table id = some b) : b ∈ table := List.mem_of_find?_eq_some h

theorem id_of_declared? {table : List (Block α)} {id : String} {b : Block α}
    (h : declared? table id = some b) : b.id = id := by
  simpa using List.find?_some h

theorem mem_ids_of_declared? {table : List (Block α)} {id : String} {b : Block α}
    (h : declared? table id = some b) : id ∈ ids table :=
  mem_ids.mpr ⟨b,mem_of_declared? h,id_of_declared? h⟩

/-- Where ids are distinct, every block is found by its own id. -/
theorem declared?_of_mem {table : List (Block α)} (hd : (ids table).Nodup) {b : Block α}
    (hb : b ∈ table) : declared? table b.id = some b := (find?_key_eq_some_iff hd).mpr ⟨hb,rfl⟩

theorem declared?_of_perm {table table' : List (Block α)} (h : table'.Perm table)
    (hd : (ids table).Nodup) (id : String) : declared? table' id = declared? table id :=
  find?_key_of_perm h hd id

/-! ### The table of first declarations -/

theorem firstDeclared_step (blocks : List (Block α)) (b : Block α) :
    firstDeclared (blocks ++ [b]) =
      if b.id ∈ ids (firstDeclared blocks) then firstDeclared blocks
      else firstDeclared blocks ++ [b] := by
  simp only [firstDeclared,List.foldl_append,List.foldl_cons,List.foldl_nil,any_id]

@[simp] theorem mem_ids_firstDeclared {blocks : List (Block α)} {id : String} :
    id ∈ ids (firstDeclared blocks) ↔ id ∈ ids blocks := by
  induction blocks using List.reverseRecOn generalizing id with
  | nil => simp [firstDeclared]
  | append_singleton blocks b ih =>
    rw [firstDeclared_step]
    split
    · rename_i hb
      have hid : id = b.id → id ∈ ids blocks := fun h => h ▸ ih.mp hb
      simpa [ih] using hid
    · simp [ih]

/-- A block joins the table unless its id was declared before. -/
theorem firstDeclared_concat (blocks : List (Block α)) (b : Block α) :
    firstDeclared (blocks ++ [b]) =
      if b.id ∈ ids blocks then firstDeclared blocks else firstDeclared blocks ++ [b] := by
  rw [firstDeclared_step]
  simp only [mem_ids_firstDeclared]

theorem nodup_ids_firstDeclared (blocks : List (Block α)) : (ids (firstDeclared blocks)).Nodup := by
  induction blocks using List.reverseRecOn with
  | nil => simp [firstDeclared]
  | append_singleton blocks b ih =>
    rw [firstDeclared_concat]
    split
    · exact ih
    · rename_i hb
      rw [ids_append,List.nodup_append]
      refine ⟨ih,by simp,?_⟩
      intro x hx y hy he
      have hy : y = b.id := by simpa using hy
      exact hb (mem_ids_firstDeclared.mp (hy ▸ he ▸ hx))

theorem firstDeclared_sublist (blocks : List (Block α)) :
    (firstDeclared blocks).Sublist blocks := by
  induction blocks using List.reverseRecOn with
  | nil => simp [firstDeclared]
  | append_singleton blocks b ih =>
    rw [firstDeclared_concat]
    split
    · exact ih.trans (List.sublist_append_left _ _)
    · exact ih.append (List.Sublist.refl _)

/-- Where ids are distinct, every block is a first declaration. -/
theorem firstDeclared_of_nodup {blocks : List (Block α)} (hd : (ids blocks).Nodup) :
    firstDeclared blocks = blocks := by
  induction blocks using List.reverseRecOn with
  | nil => rfl
  | append_singleton blocks b ih =>
    rw [ids_append,List.nodup_append] at hd
    have hb : b.id ∉ ids blocks := fun hmem => hd.2.2 _ hmem _ List.mem_cons_self rfl
    rw [firstDeclared_concat,if_neg hb,ih hd.1]

/-- The table answers a look-up with the first block of the list that has the id. -/
theorem declared?_firstDeclared (blocks : List (Block α)) (id : String) :
    declared? (firstDeclared blocks) id = declared? blocks id := by
  induction blocks using List.reverseRecOn with
  | nil => simp [firstDeclared]
  | append_singleton blocks b ih =>
    rw [firstDeclared_concat]
    have happ (bs : List (Block α)) :
        declared? (bs ++ [b]) id = (declared? bs id).or (declared? [b] id) := by
      simp [declared?,List.find?_append]
    split
    · rename_i hb
      rw [ih,happ]
      by_cases hid : b.id = id
      · have hsome : (declared? blocks id).isSome := isSome_declared?.mpr (hid ▸ hb)
        obtain ⟨c,hc⟩ := Option.isSome_iff_exists.mp hsome
        simp [hc]
      · have hnone : declared? [b] id = none := by simp [declared?,hid]
        simp [hnone]
    · rw [happ,happ,ih]

/-! ### Later declarations -/

/-- What one block adds to the ids seen and to the ids of later declarations. -/
def noteId (noted : List String × List String) (b : Block α) : List String × List String :=
  if noted.1.contains b.id then (noted.1,noted.2 ++ [b.id]) else (b.id :: noted.1,noted.2)

theorem laterDeclared_eq_foldl (blocks : List (Block α)) :
    laterDeclared blocks = (blocks.foldl noteId ([],[])).2 := rfl

theorem mem_foldl_noteId {blocks : List (Block α)} {id : String} :
    id ∈ (blocks.foldl noteId ([],[])).1 ↔ id ∈ ids blocks := by
  induction blocks using List.reverseRecOn generalizing id with
  | nil => simp
  | append_singleton blocks b ih =>
    simp only [List.foldl_append,List.foldl_cons,List.foldl_nil,noteId,List.contains_iff_mem,ih]
    split
    · rename_i hb
      have hid : id = b.id → id ∈ ids blocks := fun h => h ▸ hb
      simpa [ih] using hid
    · simp [ih,or_comm]

/-- A block is told as a duplicate exactly when its id was declared before. -/
theorem laterDeclared_concat (blocks : List (Block α)) (b : Block α) :
    laterDeclared (blocks ++ [b]) =
      laterDeclared blocks ++ if b.id ∈ ids blocks then [b.id] else [] := by
  simp only [laterDeclared_eq_foldl,List.foldl_append,List.foldl_cons,List.foldl_nil]
  rw [noteId]
  simp only [List.contains_iff_mem,mem_foldl_noteId]
  split <;> simp

theorem laterDeclared_of_nodup {blocks : List (Block α)} (hd : (ids blocks).Nodup) :
    laterDeclared blocks = [] := by
  induction blocks using List.reverseRecOn with
  | nil => rfl
  | append_singleton blocks b ih =>
    rw [ids_append,List.nodup_append] at hd
    have hb : b.id ∉ ids blocks := fun hmem => hd.2.2 _ hmem _ List.mem_cons_self rfl
    rw [laterDeclared_concat,if_neg hb,ih hd.1,List.append_nil]

/-- An id is told as a duplicate once for every declaration after its first. -/
theorem count_laterDeclared (blocks : List (Block α)) (id : String) :
    (laterDeclared blocks).count id = (ids blocks).count id - 1 := by
  induction blocks using List.reverseRecOn with
  | nil => simp [laterDeclared]
  | append_singleton blocks b ih =>
    rw [laterDeclared_concat,List.count_append,ih,ids_append,List.count_append]
    by_cases hid : b.id = id
    · subst hid
      by_cases hb : b.id ∈ ids blocks
      · simp [hb]
      · have hzero : (ids blocks).count b.id = 0 := List.count_eq_zero.mpr hb
        simp [hb,hzero]
    · split <;> simp [hid]

end Pinning
end Blueprint
