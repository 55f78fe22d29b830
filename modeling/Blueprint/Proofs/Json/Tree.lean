import Blueprint.Proofs.Json.Number
import Blueprint.Proofs.Json.String

/-!
Values written to texts and read back to trees. The tree that is read from the compact text of a
value shows the value: the same numbers and strings, the same items, and the same members in the
same order.
-/

namespace Blueprint.Json

open Document

/-! ### What a tree shows -/

/-- A node that shows a value to whoever reads it. -/
inductive Shows : Value → Node → Prop
  | float {x : Float} {n : Node} (h : n.asFloat = .ok x) : Shows (.float x) n
  | string {s : String} {mark : Mark} {place : Option Span}
      (h : mark.variant = .named s place none) : Shows (.string s) (.string mark s)
  | array {vs : List Value} {mark : Mark} {items : List (Item Node)} {place : Option Span}
      (h : List.Forall₂ (fun v item => Shows v item.node) vs items) :
      Shows (.array vs) (.list mark items (.closed place))
  | object {ms : List (String × Value)} {mark : Mark} {members : List (Member Node)}
      {place : Option Span} (hkeys : members.map (·.key) = ms.map fun m => .ok m.1)
      (h : List.Forall₂ (fun m member => Shows m.2 member.node) ms members) :
      Shows (.object ms) (.table mark members (.closed place))

/-- A value of strings, of floats that are carried, and of lists and objects of such values. -/
inductive Value.Carried : Value → Prop
  | float {x : Float} (h : Json.Carried x) : Carried (.float x)
  | string (s : String) : Carried (.string s)
  | array {vs : List Value} (h : ∀ v ∈ vs, Carried v) : Carried (.array vs)
  | object {ms : List (String × Value)} (h : ∀ m ∈ ms, Carried m.2) : Carried (.object ms)

/-! ### Texts -/

theorem itemChars_eq (style : Style) (depth : Nat) (vs : List Value) :
    itemChars style depth vs = vs.map (·.chars style depth) := by
  induction vs with
  | nil => rfl
  | cons v vs ih => rw [itemChars,ih,List.map_cons]

/-- A member of an object, as it is written. -/
def memberText (style : Style) (depth : Nat) (m : String × Value) : List Char :=
  stringChars m.1.toList ++ style.colon ++ m.2.chars style depth

theorem memberChars_eq (style : Style) (depth : Nat) (ms : List (String × Value)) :
    memberChars style depth ms = ms.map (memberText style depth) := by
  induction ms with
  | nil => rfl
  | cons m ms ih =>
    obtain ⟨key,v⟩ := m
    rw [memberChars,ih,List.map_cons]
    rfl

/-- The written items of a list that follow others, up to its end. -/
def following (closing : Char) (items : List (List Char)) : List Char :=
  items.flatMap (',' :: ·) ++ [closing]

theorem enclose_compact (depth : Nat) (opening closing : Char) (first : List Char)
    (items : List (List Char)) :
    Style.compact.enclose depth opening closing (first :: items) =
      opening :: (first ++ following closing items) := by
  simp [Style.enclose,Style.lineBreak,following]

theorem delimited_following {closing : Char} (hclosing : closing = ']' ∨ closing = '\x7d')
    (items : List (List Char)) (rest : List Char) :
    Delimited (following closing items ++ rest) := by
  intro c hc
  cases items with
  | nil =>
    obtain rfl : closing = c := Option.some.inj hc
    exact Or.inr hclosing
  | cons item items =>
    obtain rfl : ',' = c := Option.some.inj hc
    exact Or.inl rfl

/-- A text that a value may begin with in a list. -/
def Opens (cs : List Char) : Prop := ∃ c r, cs = c :: r ∧ isSpace c = false ∧ c ≠ ']'

theorem Opens.append {cs : List Char} (h : Opens cs) (rest : List Char) : Opens (cs ++ rest) := by
  obtain ⟨c,r,rfl,hc⟩ := h
  exact ⟨c,r ++ rest,rfl,hc⟩

/-- The value is read back from its compact text, whatever follows it. -/
def Value.ReadsBack (v : Value) : Prop :=
  ∀ (depth : Nat) {rest : List Char} (i fuel : Nat), Delimited rest →
    3 * (v.chars .compact depth).length ≤ fuel →
      ∃ n j, readValue fuel ⟨v.chars .compact depth ++ rest,i⟩ = (n,some ⟨rest,j⟩) ∧ Shows v n

theorem Value.Carried.opens {v : Value} (h : v.Carried) (depth : Nat) :
    Opens (v.chars .compact depth) := by
  cases h with
  | float h =>
    obtain ⟨c,r,htext,hc,_⟩ := exists_head_of_carried h
    refine ⟨c,r,htext,isSpace_of_isNumeric hc,?_⟩
    rintro rfl
    cases hc
  | string s => exact ⟨'"',_,by simp only [Value.chars,stringChars]; rfl,rfl,by decide⟩
  | @array vs =>
    cases vs with
    | nil => exact ⟨'[',_,by simp only [Value.chars]; rfl,rfl,by decide⟩
    | cons v vs => exact ⟨'[',_,by simp only [Value.chars]; rfl,rfl,by decide⟩
  | @object ms =>
    cases ms with
    | nil => exact ⟨'\x7b',_,by simp only [Value.chars]; rfl,rfl,by decide⟩
    | cons m ms => exact ⟨'\x7b',_,by simp only [Value.chars]; rfl,rfl,by decide⟩

theorem readValue_quote (cs : List Char) (fuel i : Nat) :
    readValue (fuel + 1) ⟨'"' :: cs,i⟩ = stringNode ⟨'"' :: cs,i⟩ := by
  rw [readValue,skipSpace_cons rfl]
  rfl

/-! ### Items of lists -/

theorem advance_cons (c : Char) (cs : List Char) (i : Nat) :
    Cursor.advance ⟨c :: cs,i⟩ = ⟨cs,i + c.utf8Size⟩ := rfl

/-- The items that are read show values, up to the end of their list. -/
structure Items.Show (r : Items) (vs : List Value) (rest : List Char) : Prop where
  items : List.Forall₂ (fun v item => Shows v item.node) vs r.items
  ending : ∃ place, r.ending = .closed place
  next : ∃ j, r.next = some ⟨rest,j⟩

section Items

variable {v : Value} {vs : List Value} {depth : Nat}

/-- The written items of a list that follow others. -/
def itemsEnd (depth : Nat) (vs : List Value) : List Char :=
  following ']' (vs.map (·.chars .compact depth))

theorem itemsEnd_cons (depth : Nat) (v : Value) (vs : List Value) :
    itemsEnd depth (v :: vs) = ',' :: (v.chars .compact depth ++ itemsEnd depth vs) := by
  simp [itemsEnd,following]

/-- One item is read, then those that follow it. -/
theorem readItem_show (hv : v.ReadsBack) {rest : List Char} {fuel : Nat}
    (hvs : ∀ i, (readItems fuel false ⟨itemsEnd depth vs ++ rest,i⟩).Show vs rest)
    (hfuel : 3 * (v.chars .compact depth).length ≤ fuel) (surplus : Option Fault) (i : Nat) :
    (readItem (fuel + 1) surplus
      ⟨v.chars .compact depth ++ (itemsEnd depth vs ++ rest),i⟩).Show (v :: vs) rest := by
  obtain ⟨n,j,hread,hn⟩ := hv depth i fuel (delimited_following (Or.inl rfl) _ rest) hfuel
  have hread : readValue fuel ⟨v.chars .compact depth ++ (itemsEnd depth vs ++ rest),i⟩ =
      (n,some ⟨itemsEnd depth vs ++ rest,j⟩) := hread
  obtain ⟨hitems,hending,hnext⟩ := hvs j
  rw [readItem,hread]
  exact ⟨List.Forall₂.cons hn hitems,hending,hnext⟩

theorem readItems_close (fuel : Nat) (first : Bool) (rest : List Char) (i : Nat) :
    (readItems (fuel + 1) first ⟨']' :: rest,i⟩).Show [] rest := by
  rw [readItems,skipSpace_cons rfl]
  exact ⟨List.Forall₂.nil,⟨_,rfl⟩,_,rfl⟩

theorem readItems_first {cs : List Char} (h : Opens cs) (fuel i : Nat) :
    readItems (fuel + 1) true ⟨cs,i⟩ = readItem fuel none ⟨cs,i⟩ := by
  obtain ⟨c,r,rfl,hspace,hclose⟩ := h
  rw [readItems,skipSpace_cons hspace]
  exact if_neg hclose

theorem readItems_comma {cs : List Char} (h : Opens cs) (fuel i : Nat) :
    ∃ surplus j, readItems (fuel + 1) false ⟨',' :: cs,i⟩ = readItem fuel surplus ⟨cs,j⟩ := by
  obtain ⟨c,r,rfl,hspace,hclose⟩ := h
  let after : Cursor := ⟨c :: r,i + ','.utf8Size⟩
  refine ⟨some (faultAt trailingCharacters after.peeked),i + ','.utf8Size,?_⟩
  rw [readItems,skipSpace_cons rfl]
  simp only [advance_cons,skipSpace_cons hspace]
  split
  · rename_i hcomma
    cases hcomma
  · simp_all [after]

/-- The items that follow others are read up to the end of their list. -/
theorem readItems_show (hopens : ∀ v ∈ vs, Opens (v.chars .compact depth))
    (hreads : ∀ v ∈ vs, v.ReadsBack) (rest : List Char) (fuel i : Nat)
    (hfuel : 3 * (itemsEnd depth vs).length ≤ fuel) :
    (readItems fuel false ⟨itemsEnd depth vs ++ rest,i⟩).Show vs rest := by
  induction vs generalizing i fuel with
  | nil =>
    have hfuel : 3 * 1 ≤ fuel := hfuel
    obtain ⟨fuel,rfl⟩ : ∃ f, fuel = f + 1 := ⟨fuel - 1,by omega⟩
    exact readItems_close fuel false rest i
  | cons v vs ih =>
    rw [itemsEnd_cons,List.length_cons,List.length_append] at hfuel
    obtain ⟨fuel,rfl⟩ : ∃ f, fuel = f + 2 := ⟨fuel - 2,by omega⟩
    have hopen := (hopens v List.mem_cons_self).append (itemsEnd depth vs ++ rest)
    obtain ⟨surplus,j,hread⟩ := readItems_comma hopen (fuel + 1) i
    rw [itemsEnd_cons,List.cons_append,List.append_assoc,hread]
    refine readItem_show (hreads v List.mem_cons_self) (fun i => ?_) (by omega) surplus j
    exact ih (fun w hw => hopens w (List.mem_cons_of_mem v hw))
      (fun w hw => hreads w (List.mem_cons_of_mem v hw)) fuel i (by omega)

theorem readValue_list {cs rest : List Char} {fuel i : Nat}
    (h : (readItems fuel true ⟨cs,i + '['.utf8Size⟩).Show vs rest) :
    ∃ n j, readValue (fuel + 1) ⟨'[' :: cs,i⟩ = (n,some ⟨rest,j⟩) ∧ Shows (.array vs) n := by
  rw [readValue,skipSpace_cons rfl]
  simp only [advance_cons]
  generalize readItems fuel true ⟨cs,i + '['.utf8Size⟩ = r at h
  obtain ⟨items,ending,skip,next⟩ := r
  obtain ⟨hitems,⟨place,rfl⟩,j,rfl⟩ := h
  exact ⟨_,j,rfl,Shows.array hitems⟩

/-- A list is read back if its items are. -/
theorem readsBack_array (hcarried : ∀ v ∈ vs, v.Carried) (hreads : ∀ v ∈ vs, v.ReadsBack) :
    (Value.array vs).ReadsBack := by
  intro depth rest i fuel _ hfuel
  cases vs with
  | nil =>
    have htext : (Value.array []).chars .compact depth = ['[',']'] := rfl
    rw [htext] at hfuel ⊢
    obtain ⟨fuel,rfl⟩ : ∃ f, fuel = f + 2 := ⟨fuel - 2,by simp at hfuel; omega⟩
    exact readValue_list (readItems_close fuel true rest _)
  | cons v vs =>
    have htext : (Value.array (v :: vs)).chars .compact depth =
        '[' :: (v.chars .compact (depth + 1) ++ itemsEnd (depth + 1) vs) := by
      rw [Value.chars,itemChars_eq,List.map_cons,enclose_compact]
      rfl
    rw [htext,List.length_cons,List.length_append] at hfuel
    obtain ⟨fuel,rfl⟩ : ∃ f, fuel = f + 3 := ⟨fuel - 3,by omega⟩
    rw [htext,List.cons_append,List.append_assoc]
    refine readValue_list ?_
    rw [readItems_first (((hcarried v List.mem_cons_self).opens _).append _)]
    refine readItem_show (hreads v List.mem_cons_self) (fun i => ?_) (by omega) none _
    exact readItems_show (fun w hw => (hcarried w (List.mem_cons_of_mem v hw)).opens _)
      (fun w hw => hreads w (List.mem_cons_of_mem v hw)) rest fuel i (by omega)

end Items

/-! ### Members of objects -/

/-- The members that are read show the members of a value, up to the end of their object. -/
structure Members.Show (r : Members) (ms : List (String × Value)) (rest : List Char) : Prop where
  keys : r.members.map (·.key) = ms.map fun m => .ok m.1
  members : List.Forall₂ (fun m member => Shows m.2 member.node) ms r.members
  ending : ∃ place, r.ending = .closed place
  next : ∃ j, r.next = some ⟨rest,j⟩

section Members

variable {m : String × Value} {ms : List (String × Value)} {depth : Nat}

/-- The written members of an object that follow others. -/
def membersEnd (depth : Nat) (ms : List (String × Value)) : List Char :=
  following '}' (ms.map (memberText .compact depth))

theorem membersEnd_cons (depth : Nat) (m : String × Value) (ms : List (String × Value)) :
    membersEnd depth (m :: ms) = ',' :: (memberText .compact depth m ++ membersEnd depth ms) := by
  simp [membersEnd,following]

theorem memberText_compact (depth : Nat) (m : String × Value) (rest : List Char) :
    memberText .compact depth m ++ rest =
      stringChars m.1.toList ++ (':' :: (m.2.chars .compact depth ++ rest)) := by
  simp [memberText,Style.colon]

theorem length_chars_le_memberText (depth : Nat) (m : String × Value) :
    (m.2.chars .compact depth).length ≤ (memberText .compact depth m).length := by
  simp [memberText]
  omega

/-- One member is read, then those that follow it. -/
theorem readMember_show (depth : Nat) (hm : m.2.ReadsBack) {rest : List Char} {fuel : Nat}
    (hms : ∀ i, (readMembers fuel false ⟨membersEnd depth ms ++ rest,i⟩).Show ms rest)
    (hfuel : 3 * (m.2.chars .compact depth).length ≤ fuel) (i : Nat) :
    (readMember (fuel + 1)
      ⟨memberText .compact depth m ++ (membersEnd depth ms ++ rest),i⟩).Show (m :: ms) rest := by
  rw [memberText_compact]
  obtain ⟨j,hkey⟩ := stringAt_stringChars m.1
    (':' :: (m.2.chars .compact depth ++ (membersEnd depth ms ++ rest))) i
  obtain ⟨n,k,hread,hn⟩ := hm depth (j + ':'.utf8Size) fuel
    (delimited_following (Or.inr rfl) _ rest) hfuel
  have hread : readValue fuel ⟨m.2.chars .compact depth ++ (membersEnd depth ms ++ rest),
      j + ':'.utf8Size⟩ = (n,some ⟨membersEnd depth ms ++ rest,k⟩) := hread
  obtain ⟨hkeys,hmembers,hending,hnext⟩ := hms k
  rw [readMember]
  simp only [hkey,skipSpace_cons (c := ':') rfl,advance_cons,hread]
  exact ⟨congrArg (Except.ok m.1 :: ·) hkeys,List.Forall₂.cons hn hmembers,hending,hnext⟩

theorem readMembers_close (fuel : Nat) (first : Bool) (rest : List Char) (i : Nat) :
    (readMembers (fuel + 1) first ⟨'}' :: rest,i⟩).Show [] rest := by
  rw [readMembers,skipSpace_cons rfl]
  exact ⟨rfl,List.Forall₂.nil,⟨_,rfl⟩,_,rfl⟩

theorem readMembers_first (cs : List Char) (fuel i : Nat) :
    readMembers (fuel + 1) true ⟨'"' :: cs,i⟩ = readMember fuel ⟨'"' :: cs,i⟩ := by
  rw [readMembers,skipSpace_cons rfl]
  rfl

theorem readMembers_comma (cs : List Char) (fuel i : Nat) :
    readMembers (fuel + 1) false ⟨',' :: '"' :: cs,i⟩ =
      readMember fuel ⟨'"' :: cs,i + ','.utf8Size⟩ := by
  rw [readMembers,skipSpace_cons rfl]
  simp only [advance_cons,skipSpace_cons (c := '"') rfl]
  rfl

theorem memberText_eq_quote (depth : Nat) (m : String × Value) :
    ∃ cs, memberText .compact depth m = '"' :: cs := ⟨_,rfl⟩

/-- The members that follow others are read up to the end of their object. -/
theorem readMembers_show (hreads : ∀ m ∈ ms, m.2.ReadsBack) (rest : List Char) (fuel i : Nat)
    (hfuel : 3 * (membersEnd depth ms).length ≤ fuel) :
    (readMembers fuel false ⟨membersEnd depth ms ++ rest,i⟩).Show ms rest := by
  induction ms generalizing i fuel with
  | nil =>
    have hfuel : 3 * 1 ≤ fuel := hfuel
    obtain ⟨fuel,rfl⟩ : ∃ f, fuel = f + 1 := ⟨fuel - 1,by omega⟩
    exact readMembers_close fuel false rest i
  | cons m ms ih =>
    have hlength := length_chars_le_memberText depth m
    rw [membersEnd_cons,List.length_cons,List.length_append] at hfuel
    obtain ⟨fuel,rfl⟩ : ∃ f, fuel = f + 2 := ⟨fuel - 2,by omega⟩
    have hmember := readMember_show depth (hreads m List.mem_cons_self)
      (fun i => ih (fun w hw => hreads w (List.mem_cons_of_mem m hw)) fuel i (by omega)) (by omega)
      (i + ','.utf8Size)
    obtain ⟨cs,hquote⟩ := memberText_eq_quote depth m
    rw [hquote] at hmember
    rw [membersEnd_cons,hquote]
    simp only [List.cons_append,List.append_assoc] at hmember ⊢
    rw [readMembers_comma]
    exact hmember

theorem readValue_object {cs rest : List Char} {fuel i : Nat}
    (h : (readMembers fuel true ⟨cs,i + '{'.utf8Size⟩).Show ms rest) :
    ∃ n j, readValue (fuel + 1) ⟨'{' :: cs,i⟩ = (n,some ⟨rest,j⟩) ∧ Shows (.object ms) n := by
  rw [readValue,skipSpace_cons rfl]
  simp only [advance_cons]
  generalize readMembers fuel true ⟨cs,i + '{'.utf8Size⟩ = r at h
  obtain ⟨members,ending,variant,skip,next⟩ := r
  obtain ⟨hkeys,hmembers,⟨place,rfl⟩,j,rfl⟩ := h
  exact ⟨_,j,rfl,Shows.object hkeys hmembers⟩

/-- An object is read back if the values of its members are. -/
theorem readsBack_object (hreads : ∀ m ∈ ms, m.2.ReadsBack) : (Value.object ms).ReadsBack := by
  intro depth rest i fuel _ hfuel
  cases ms with
  | nil =>
    have htext : (Value.object []).chars .compact depth = ['{','}'] := rfl
    rw [htext] at hfuel ⊢
    obtain ⟨fuel,rfl⟩ : ∃ f, fuel = f + 2 := ⟨fuel - 2,by simp at hfuel; omega⟩
    exact readValue_object (readMembers_close fuel true rest _)
  | cons m ms =>
    have htext : (Value.object (m :: ms)).chars .compact depth =
        '{' :: (memberText .compact (depth + 1) m ++ membersEnd (depth + 1) ms) := by
      rw [Value.chars,memberChars_eq,List.map_cons,enclose_compact]
      rfl
    have hlength := length_chars_le_memberText (depth + 1) m
    rw [htext,List.length_cons,List.length_append] at hfuel
    obtain ⟨fuel,rfl⟩ : ∃ f, fuel = f + 3 := ⟨fuel - 3,by omega⟩
    rw [htext,List.cons_append,List.append_assoc]
    have hmember := readMember_show (depth + 1) (hreads m List.mem_cons_self)
      (fun i => readMembers_show (fun w hw => hreads w (List.mem_cons_of_mem m hw)) rest fuel i
        (by omega)) (by omega) (i + '{'.utf8Size)
    refine readValue_object ?_
    obtain ⟨cs,hquote⟩ := memberText_eq_quote (depth + 1) m
    rw [hquote,List.cons_append] at hmember ⊢
    rw [readMembers_first]
    exact hmember

end Members

/-- A value is read back from its compact text: the tree that is read shows the value. -/
theorem Value.Carried.readsBack {v : Value} (h : v.Carried) : v.ReadsBack := by
  induction h with
  | @float x h =>
    intro depth rest i fuel hrest hfuel
    have hfuel : 3 * (floatChars x).length ≤ fuel := hfuel
    obtain ⟨c,r,htext,_⟩ := exists_head_of_carried h
    rw [htext,List.length_cons] at hfuel
    obtain ⟨fuel,rfl⟩ : ∃ f, fuel = f + 1 := ⟨fuel - 1,by omega⟩
    obtain ⟨n,j,hread,hn⟩ := readValue_of_carried h hrest i fuel
    exact ⟨n,j,hread,Shows.float hn⟩
  | string s =>
    intro depth rest i fuel _ hfuel
    have hfuel : 3 * (stringChars s.toList).length ≤ fuel := hfuel
    obtain ⟨fuel,rfl⟩ : ∃ f, fuel = f + 1 := ⟨fuel - 1,by simp [stringChars] at hfuel; omega⟩
    obtain ⟨place,skip,variantPlace,j,hread⟩ := stringNode_stringChars s rest i
    exact ⟨_,j,(readValue_quote _ _ _).trans hread,.string rfl⟩
  | array h ih => exact readsBack_array h ih
  | object _ ih => exact readsBack_object ih

/-- Whatever is read off a tree that shows a value is read off the compact text of the value. -/
theorem decode_compact {β : Type} {expect : Node → Except Fault β} {v : Value} {b : β}
    (hv : v.Carried) (h : ∀ n, Shows v n → expect n = .ok b) :
    decode expect v.compact.toList = .ok b := by
  have hend : Delimited [] := fun _ hc => by cases hc
  obtain ⟨n,j,hread,hn⟩ := hv.readsBack 0 0 (3 * (v.chars .compact 0).length + 3) hend (by omega)
  rw [List.append_nil] at hread
  rw [Value.compact,String.toList_ofList,decode,read,Cursor.start,hread]
  simp only [h n hn]
  rfl

end Blueprint.Json
