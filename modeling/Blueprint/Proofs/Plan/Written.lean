import Blueprint.Plan.Written
import Blueprint.Proofs.Json.Record
import Blueprint.Proofs.Plan.Loaded
import Blueprint.Proofs.Plan.Reference

/-!
Plans written and read back. Every room, part, furnishing, door and window is read back from what is
written for it, whichever of its fields are left out, as long as everything is pinned to a name.
-/

namespace Blueprint

open Document (Node Fault Record)
open Document.Record (Reads read_of_reads)
open Json (Value Shows)

/-! ### Lists that are left out where they are empty -/

/-- What is read where a list is left out if it is empty. -/
def listed {γ : Type} : List γ → Option (List γ)
  | [] => none
  | cs => some cs

@[simp] theorem getD_listed {γ : Type} (cs : List γ) : (listed cs).getD [] = cs := by
  cases cs <;> rfl

/-- A list that is left out where it is empty. -/
theorem Document.Record.Reads.unlessEmpty {δ β γ : Type} {r : Record δ β}
    {ms : List (String × Value)} {d d' : δ} {key name : String} {otherName : Option String}
    {optional : Bool} {get : δ → Option (List γ)} {put : δ → List γ → δ}
    {read : Node → Except Fault γ} {f : γ → Value} {cs : List γ} (next : δ)
    (hfield : r.fields.find? (·.answersTo key) =
      some (.of name otherName optional get put (Node.asList read)))
    (hblank : get d = none) (hnext : next = (listed cs).elim d (put d))
    (hread : ∀ c ∈ cs, ∀ n, Shows (f c) n → read n = .ok c) (hrest : r.Reads ms next d') :
    r.Reads (Blueprint.unlessEmpty key f cs ++ ms) d d' := by
  subst hnext
  cases cs with
  | nil => exact hrest
  | cons c cs => exact Reads.cons hfield hblank (fun n hn => hn.asList hread) hrest

/-! ### What is read from a written plan -/

theorem Corner.read_of_shows (c : Corner) (n : Node) (h : Shows c.toJson n) :
    Corner.read n = .ok c := h.asVariant c.ofName?_name

theorem Attachment.read_of_shows {a : Attachment} (ha : a.Named) (n : Node)
    (h : Shows a.toJson n) : Attachment.read n = .ok a := by
  have htext : n.asString = .ok a.text := h.asString
  rw [Attachment.read,htext]
  simp only [bind,Except.bind,Attachment.parse_text ha]
  rfl

theorem Shape.find?_name (s : Shape) : Shape.all.find? (·.name == s.name) = some s := by
  cases s <;> rfl

theorem Swing.find?_name (s : Swing) : Swing.all.find? (·.name == s.name) = some s := by
  cases s <;> rfl

theorem DoorKind.find?_name (k : DoorKind) : DoorKind.all.find? (·.name == k.name) = some k := by
  cases k <;> rfl

namespace Furnishing

/-- The draft whose fields are all read. -/
def draft (f : Furnishing Float) : Draft :=
  { shape := f.shape, x := f.x, y := f.y, width := f.width, height := f.height.map some
    color := f.color.map some, text := f.text.map some, anchor := f.anchor
    roomAnchor := f.roomAnchor }

theorem finish_draft (f : Furnishing Float) : finish f.draft = .ok f := by
  obtain ⟨shape,x,y,width,height,color,text,anchor,roomAnchor⟩ := f
  cases height <;> cases color <;> cases text <;> rfl

theorem read_of_shows (f : Furnishing Float) (n : Node) (h : Shows f.toJson n) :
    read n = .ok f := by
  refine read_of_reads ?_ f.finish_draft h
  simp only [List.append_assoc,List.cons_append,List.nil_append]
  refine Reads.cons rfl rfl (fun n hn => hn.asVariant f.shape.find?_name) ?_
  refine Reads.cons rfl rfl (fun n hn => hn.asFloat) ?_
  refine Reads.cons rfl rfl (fun n hn => hn.asFloat) ?_
  refine Reads.cons rfl rfl (fun n hn => hn.asFloat) ?_
  refine Reads.optional
    { f.draft with color := none, text := none, anchor := none, roomAnchor := none }
    rfl rfl (by unfold draft; cases f.height <;> rfl) (fun c n hn => hn.asFloat) ?_
  refine Reads.optional { f.draft with text := none, anchor := none, roomAnchor := none }
    rfl rfl (by unfold draft; cases f.color <;> rfl) (fun c n hn => hn.asString) ?_
  refine Reads.optional { f.draft with anchor := none, roomAnchor := none }
    rfl rfl (by unfold draft; cases f.text <;> rfl) (fun c n hn => hn.asString) ?_
  refine Reads.cons rfl rfl f.anchor.read_of_shows ?_
  exact Reads.cons rfl rfl f.roomAnchor.read_of_shows Reads.nil

end Furnishing

namespace Block

/-- The draft whose fields are all read, but for lists. -/
def draft (b : Block Float) : Room.Draft :=
  { id := b.id, name := b.name.map some, width := b.width, depth := b.depth, anchor := b.anchor
    attachTo := b.attachTo, offset := b.offset }

variable {β : Type} {r : Record Room.Draft β}

theorem finishBlock_draft (b : Block Float) (parts : Option (List (Part Float)))
    (furnishings : Option (List (Furnishing Float))) :
    Room.finishBlock { b.draft with parts, furnishings } = .ok b := by
  obtain ⟨id,name,width,depth,anchor,attachTo,offset⟩ := b
  cases name <;> rfl

/-- The members of a block are read by any record that has its fields. -/
theorem reads {ms : List (String × Value)} {d : Room.Draft} (hr : Room.blockFields <+: r.fields)
    {b : Block Float} (hnamed : b.attachTo.Named) (hrest : r.Reads ms b.draft d) :
    r.Reads (b.members ++ ms) {} d := by
  unfold members
  simp only [List.append_assoc,List.cons_append,List.nil_append]
  refine Reads.cons (hr.find?_eq_some rfl) rfl (fun n hn => hn.asString) ?_
  refine Reads.optional { id := b.id, name := b.name.map some } (hr.find?_eq_some rfl) rfl
    (by cases b.name <;> rfl) (fun c n hn => hn.asString) ?_
  refine Reads.cons (hr.find?_eq_some rfl) rfl (fun n hn => hn.asFloat) ?_
  refine Reads.cons (hr.find?_eq_some rfl) rfl (fun n hn => hn.asFloat) ?_
  refine Reads.cons (hr.find?_eq_some rfl) rfl b.anchor.read_of_shows ?_
  refine Reads.cons (hr.find?_eq_some rfl) rfl (Attachment.read_of_shows hnamed) ?_
  exact Reads.cons (hr.find?_eq_some rfl) rfl (fun n hn => hn.asPair) hrest

end Block

namespace Part

def draft (p : Part Float) : Room.Draft :=
  { p.toBlock.draft with furnishings := listed p.furnishings }

theorem finish_draft (p : Part Float) : finish p.draft = .ok p := by
  have hblock : Room.finishBlock p.draft = .ok p.toBlock := p.finishBlock_draft none _
  rw [finish,hblock]
  simp only [bind,Except.bind,draft,getD_listed]
  rfl

theorem read_of_shows {p : Part Float} (hnamed : p.attachTo.Named) (n : Node)
    (h : Shows p.toJson n) : read n = .ok p := by
  have hobjects : record.Reads (unlessEmpty "objects" Furnishing.toJson p.furnishings)
      p.toBlock.draft p.draft := by
    rw [← List.append_nil (unlessEmpty ..)]
    refine Reads.unlessEmpty p.draft rfl rfl ?_ (fun f _ => f.read_of_shows) Reads.nil
    unfold draft
    cases listed p.furnishings <;> rfl
  exact read_of_reads (Block.reads (List.prefix_append ..) hnamed hobjects) p.finish_draft h

end Part

namespace Room

def draft (r : Room Float) : Draft :=
  { r.toBlock.draft with parts := listed r.parts, furnishings := listed r.furnishings }

theorem finish_draft (r : Room Float) : finish r.draft = .ok r := by
  have hblock : finishBlock r.draft = .ok r.toBlock := r.finishBlock_draft _ _
  rw [finish,hblock]
  simp only [bind,Except.bind,draft,getD_listed]
  rfl

theorem read_of_shows {r : Room Float} (hnamed : ∀ a ∈ r.attachments, a.Named) (n : Node)
    (h : Shows r.toJson n) : read n = .ok r := by
  obtain ⟨hroom,hparts⟩ := List.forall_mem_cons.mp hnamed
  rw [List.forall_mem_map] at hparts
  have hlists : record.Reads (unlessEmpty "parts" Part.toJson r.parts ++
      unlessEmpty "objects" Furnishing.toJson r.furnishings) r.toBlock.draft r.draft := by
    rw [← List.append_nil (unlessEmpty "objects" ..)]
    refine Reads.unlessEmpty { r.draft with furnishings := none } rfl rfl ?_
      (fun p hp => Part.read_of_shows (hparts p hp)) ?_
    · unfold draft
      cases listed r.parts <;> rfl
    · refine Reads.unlessEmpty r.draft rfl rfl ?_ (fun f _ => f.read_of_shows) Reads.nil
      unfold draft
      cases listed r.furnishings <;> rfl
  have hreads := Block.reads (List.prefix_append ..) hroom hlists
  rw [← List.append_assoc] at hreads
  exact read_of_reads hreads r.finish_draft h

end Room

namespace Window

variable {β : Type} {r : Record Door.Draft β}

/-- The draft whose fields are all read, but for those that only doors have. -/
def draft (w : Window Float) : Door.Draft :=
  { room := w.room, offset := w.offset, width := w.width, depth := w.depth.map some }

theorem finish_draft (w : Window Float) (swing : Option Swing) (kind : Option DoorKind) :
    finish { w.draft with swing, kind } = .ok w := by
  obtain ⟨room,offset,width,depth⟩ := w
  cases depth <;> rfl

/-- The members of a window are read by any record that has its fields. -/
theorem reads {ms : List (String × Value)} {d : Door.Draft} (hr : fields <+: r.fields)
    {w : Window Float} (hrest : r.Reads ms w.draft d) : r.Reads (w.members ++ ms) {} d := by
  unfold members
  simp only [List.cons_append,List.nil_append]
  refine Reads.cons (hr.find?_eq_some rfl) rfl (fun n hn => hn.asString) ?_
  refine Reads.cons (hr.find?_eq_some rfl) rfl (fun n hn => hn.asFloat) ?_
  refine Reads.cons (hr.find?_eq_some rfl) rfl (fun n hn => hn.asFloat) ?_
  exact Reads.optional w.draft (hr.find?_eq_some rfl) rfl (by unfold draft; cases w.depth <;> rfl)
    (fun c n hn => hn.asFloat) hrest

theorem read_of_shows (w : Window Float) (n : Node) (h : Shows w.toJson n) : read n = .ok w := by
  have hreads : record.Reads w.members {} w.draft := by
    rw [← List.append_nil w.members]
    exact reads (List.prefix_refl _) Reads.nil
  exact read_of_reads hreads (w.finish_draft none none) h

end Window

theorem Door.read_of_shows (d : Door Float) (n : Node) (h : Shows d.toJson n) : read n = .ok d := by
  have hdoor : record.Reads [("swing",.string d.swing.name),("type",.string d.kind.name)]
      d.toWindow.draft { d.toWindow.draft with swing := d.swing, kind := d.kind } := by
    refine Reads.cons rfl rfl (fun n hn => hn.asVariant d.swing.find?_name) ?_
    exact Reads.cons rfl rfl (fun n hn => hn.asVariant d.kind.find?_name) Reads.nil
  refine read_of_reads (Window.reads (List.prefix_append ..) hdoor) ?_ h
  change Door.finish _ = .ok d
  rw [Door.finish,Window.finish_draft]
  rfl

/-- A plan is read off what shows it. -/
theorem Plan.read_of_shows {plan : Plan Float} (hnamed : ∀ a ∈ plan.attachments, a.Named) {n : Node}
    (h : Shows plan.toJson n) : Plan.read n = .ok plan := by
  have hroom : ∀ r ∈ plan.rooms, ∀ n, Shows r.toJson n → Room.read n = .ok r := by
    intro r hr n hn
    exact Room.read_of_shows (fun a ha => hnamed a (List.mem_flatMap.mpr ⟨r,hr,ha⟩)) n hn
  have hreads : record.Reads [("rooms",.array (plan.rooms.map Room.toJson)),
      ("doors",.array (plan.doors.map Door.toJson)),
      ("windows",.array (plan.windows.map Window.toJson))] {}
      { rooms := plan.rooms, doors := plan.doors, windows := plan.windows } := by
    refine Reads.cons rfl rfl (fun n hn => hn.asList hroom) ?_
    refine Reads.cons rfl rfl (fun n hn => hn.asList fun d _ => d.read_of_shows) ?_
    exact Reads.cons rfl rfl (fun n hn => hn.asList fun w _ => w.read_of_shows) Reads.nil
  exact read_of_reads hreads rfl h

/-! ### The numbers of a plan -/

def Furnishing.numbers (f : Furnishing Float) : List Float := [f.x,f.y,f.width] ++ f.height.toList

def Block.numbers (b : Block Float) : List Float := [b.width,b.depth,b.offset.1,b.offset.2]

def Part.numbers (p : Part Float) : List Float :=
  p.toBlock.numbers ++ p.furnishings.flatMap Furnishing.numbers

def Room.numbers (r : Room Float) : List Float :=
  r.toBlock.numbers ++ r.parts.flatMap Part.numbers ++ r.furnishings.flatMap Furnishing.numbers

def Window.numbers (w : Window Float) : List Float := [w.offset,w.width] ++ w.depth.toList

/-- All numbers that a plan holds. -/
def Plan.numbers (plan : Plan Float) : List Float :=
  plan.rooms.flatMap Room.numbers ++ plan.doors.flatMap (·.toWindow.numbers) ++
    plan.windows.flatMap Window.numbers

section Carried

variable {β : Type} {key : String} {f : β → Value}

theorem carried_array {items : List β} (h : ∀ b ∈ items, (f b).Carried) :
    (Value.array (items.map f)).Carried := .array (List.forall_mem_map.mpr h)

theorem carried_optional {o : Option β} (h : ∀ b ∈ o.toList, (f b).Carried) :
    ∀ m ∈ Json.optional key f o, m.2.Carried := by
  cases o with
  | none => exact fun _ hm => absurd hm List.not_mem_nil
  | some b => simpa [Json.optional] using h

theorem carried_unlessEmpty {items : List β} (h : ∀ b ∈ items, (f b).Carried) :
    ∀ m ∈ unlessEmpty key f items, m.2.Carried := by
  unfold unlessEmpty
  split
  · exact fun _ hm => absurd hm List.not_mem_nil
  · simpa using carried_array h

end Carried

theorem Furnishing.carried_toJson {f : Furnishing Float} (h : ∀ x ∈ f.numbers, Json.Carried x) :
    f.toJson.Carried := by
  simp only [numbers,List.forall_mem_append,List.forall_mem_cons] at h
  obtain ⟨⟨hx,hy,hwidth,-⟩,hheight⟩ := h
  refine .object ?_
  simp only [List.forall_mem_append,List.forall_mem_cons]
  refine ⟨⟨⟨⟨⟨.string _,.float hx,.float hy,.float hwidth,by simp⟩,?_⟩,?_⟩,?_⟩,.string _,.string _,
    by simp⟩
  · exact carried_optional fun x hx => .float (hheight x hx)
  · exact carried_optional fun s _ => .string s
  · exact carried_optional fun s _ => .string s

theorem Block.carried_members {b : Block Float} (h : ∀ x ∈ b.numbers, Json.Carried x) :
    ∀ m ∈ b.members, m.2.Carried := by
  simp only [numbers,List.forall_mem_cons] at h
  obtain ⟨hwidth,hdepth,hx,hy,-⟩ := h
  simp only [members,List.forall_mem_append,List.forall_mem_cons]
  refine ⟨⟨⟨.string _,by simp⟩,?_⟩,.float hwidth,.float hdepth,.string _,.string _,.array ?_,
    by simp⟩
  · exact carried_optional fun s _ => .string s
  · simp only [List.forall_mem_cons]
    exact ⟨.float hx,.float hy,by simp⟩

theorem Part.carried_toJson {p : Part Float} (h : ∀ x ∈ p.numbers, Json.Carried x) :
    p.toJson.Carried := by
  simp only [numbers,List.forall_mem_append,List.forall_mem_flatMap] at h
  refine .object (List.forall_mem_append.mpr ⟨p.carried_members h.1,?_⟩)
  exact carried_unlessEmpty fun f hf => f.carried_toJson (h.2 f hf)

theorem Room.carried_toJson {r : Room Float} (h : ∀ x ∈ r.numbers, Json.Carried x) :
    r.toJson.Carried := by
  simp only [numbers,List.forall_mem_append,List.forall_mem_flatMap] at h
  obtain ⟨⟨hblock,hparts⟩,hfurnishings⟩ := h
  refine .object ?_
  simp only [List.forall_mem_append]
  refine ⟨⟨r.carried_members hblock,?_⟩,?_⟩
  · exact carried_unlessEmpty fun p hp => p.carried_toJson (hparts p hp)
  · exact carried_unlessEmpty fun f hf => f.carried_toJson (hfurnishings f hf)

theorem Window.carried_members {w : Window Float} (h : ∀ x ∈ w.numbers, Json.Carried x) :
    ∀ m ∈ w.members, m.2.Carried := by
  simp only [numbers,List.forall_mem_append,List.forall_mem_cons] at h
  obtain ⟨⟨hoffset,hwidth,-⟩,hdepth⟩ := h
  simp only [members,List.forall_mem_append,List.forall_mem_cons]
  refine ⟨⟨.string _,.float hoffset,.float hwidth,by simp⟩,?_⟩
  exact carried_optional fun x hx => .float (hdepth x hx)

theorem Window.carried_toJson {w : Window Float} (h : ∀ x ∈ w.numbers, Json.Carried x) :
    w.toJson.Carried := .object (w.carried_members h)

theorem Door.carried_toJson {d : Door Float} (h : ∀ x ∈ d.toWindow.numbers, Json.Carried x) :
    d.toJson.Carried := by
  refine .object (List.forall_mem_append.mpr ⟨d.carried_members h,?_⟩)
  simp only [List.forall_mem_cons]
  exact ⟨.string _,.string _,by simp⟩

/-- A plan is carried as a text if its numbers are. -/
theorem Plan.carried_toJson {plan : Plan Float} (h : ∀ x ∈ plan.numbers, Json.Carried x) :
    plan.toJson.Carried := by
  simp only [numbers,List.forall_mem_append,List.forall_mem_flatMap] at h
  obtain ⟨⟨hrooms,hdoors⟩,hwindows⟩ := h
  refine .object ?_
  simp only [List.forall_mem_cons]
  refine ⟨?_,?_,?_,by simp⟩
  · exact carried_array fun r hr => r.carried_toJson (hrooms r hr)
  · exact carried_array fun d hd => d.carried_toJson (hdoors d hd)
  · exact carried_array fun w hw => w.carried_toJson (hwindows w hw)

end Blueprint
