import Blueprint.Proofs.Geometry.Adjacency
import Blueprint.Proofs.Layout.Swing
import Blueprint.Proofs.Layout.Unambiguous

/-!
The space that openings take of their walls, in exact coordinates. Warnings go by the offsets and
lengths that openings are stored with. They agree with the outlines that are drawn: every end of an
outline that is out of its wall is told once, and every two outlines that share a stretch of a wall.
-/

namespace Blueprint

open Scalar

/-! ### Intervals of walls -/

namespace Wall

/-- The corner at the end of a wall, across from the one that offsets are counted from. -/
def stop : Wall → Corner
  | top => .topRight
  | bottom => .bottomRight
  | left => .bottomLeft
  | right => .bottomRight

/-- How far along a wall a point is from another one. -/
def progress (w : Wall) (p q : Point Rat) : Rat := (p.toward q).dot w.along

/-- The interval that points cover along a wall, counted from a point. -/
def cover (w : Wall) (base : Point Rat) (ps : List (Point Rat)) : Rat × Rat :=
  ((ps.map (w.progress base)).min?.getD 0,(ps.map (w.progress base)).max?.getD 0)

theorem corner_stop (w : Wall) (r : Rect Rat) :
    r.corner w.stop = w.point (r.corner w.start) (r.side w) 0 := by
  cases w <;>
    simp [stop,start,point,along,inward,isHorizontal,Rect.corner,Rect.topLeft,Rect.side,
      Corner.displacement,Point.translate]

theorem progress_point (w : Wall) (base : Point Rat) (onward inside : Rat) :
    w.progress base (w.point base onward inside) = onward := by
  cases w <;>
    simp [progress,Point.toward,Point.dot,point,along,inward,isHorizontal,Point.translate]

@[simp] theorem point_zero (w : Wall) (base : Point Rat) : w.point base 0 0 = base := by
  simp [point,Point.translate]

theorem progress_framed (w : Wall) (start : Point Rat) (past offset width x y : Rat) :
    w.progress (w.point start past 0) (w.framed (w.stretch start offset width).start width x y) =
      offset - past + if w.isReversed then width - x else x := by
  cases w <;>
    simp [progress,Point.toward,Point.dot,framed,stretch,point,along,inward,isHorizontal,isReversed,
      Point.translate] <;>
    ring

/-- The outline of an opening covers its offset to its offset plus its width. -/
theorem cover_outline (w : Wall) (start : Point Rat) (past offset : Rat) {width : Rat}
    (hwidth : 0 < width) (depth : Rat) (style : OpeningStyle) :
    w.cover (w.point start past 0) (drawOpening ⟨(w.stretch start offset width).start,w.rotation,
        w.stretch start offset width⟩ w width depth style).outline =
      (offset - past,offset + width - past) := by
  have hle : offset - past ≤ offset - past + width := by linarith
  simp only [cover,outline_drawOpening,List.map_cons,List.map_nil,progress_framed]
  cases w.isReversed <;> simp [List.min?_cons,List.max?_cons,hle] <;> ring

end Wall

/-- How much two intervals share; none is shared if this is negative. -/
def sharedLength (u v : Rat × Rat) : Rat := min u.2 v.2 - max u.1 v.1

namespace PlacedOpening

variable (o : PlacedOpening Rat) (host : Host Rat)

/-- The interval that the outline covers of a wall of a host, counted from the wall's start. -/
def cover : Rat × Rat := o.wall.cover (host.rect.corner o.wall.start) o.drawing.outline

/-- The same interval, counted from the end of the wall. -/
def coverPast : Rat × Rat := o.wall.cover (host.rect.corner o.wall.stop) o.drawing.outline

/-- The length of the wall, from corner to corner. -/
def hostLength : Rat :=
  o.wall.progress (host.rect.corner o.wall.start) (host.rect.corner o.wall.stop)

end PlacedOpening

/-! ### Names of openings -/

/-- Warnings about openings tell their kinds and numbers. -/
theorem OpeningName.slot_of_text {a b : OpeningName} (h : a.text = b.text) :
    (a.kind,a.index) = (b.kind,b.index) := by
  have hlist (n : OpeningName) : n.text.toList = n.kind.name.toList ++ (" #".toList ++
      (Nat.toDigits 10 (n.index + 1) ++ ' ' :: ("on " ++ n.host ++ ":" ++ n.wall.name).toList)) := by
    have htext : n.text = n.kind.name ++ " #" ++ (n.index + 1).repr ++ " on " ++ n.host ++ ":" ++
        n.wall.name := rfl
    simp [htext,Nat.toList_repr]
  have hblank (n : Nat) : ' ' ∉ Nat.toDigits 10 n := fun hc =>
    absurd (Nat.isDigit_of_mem_toDigits (by decide) (by decide) hc) (by decide)
  have h := congrArg String.toList h
  rw [hlist,hlist] at h
  have hkind : a.kind = b.kind := by
    cases ha : a.kind <;> cases hb : b.kind <;> simp [ha,hb,OpeningKind.name] at h ⊢
  rw [hkind] at h
  have hcut := congrArg (Text.splitFirst? ' ')
    (List.append_cancel_left (List.append_cancel_left h))
  rw [Text.splitFirst?_append (hblank _),Text.splitFirst?_append (hblank _),Option.some.injEq,
    Prod.mk.injEq] at hcut
  have hindex := congrArg (Nat.ofDigitChars 10 · 0) hcut.1
  simp only [Nat.ofDigitChars_ten_toDigits,Nat.add_right_cancel_iff] at hindex
  rw [hkind,hindex]

/-! ### What warnings tell -/

/-- What may be wrong with the space that openings take of their walls. -/
inductive WallFault where
  | start (opening : OpeningName)
  | stop (opening : OpeningName)
  | shared (pair : Sym2 OpeningName)
  deriving DecidableEq

/-- What a warning tells of a wall. -/
def Lint.wallFault? {α : Type} : Lint α → Option WallFault
  | startsBefore name _ => some (.start name)
  | pastEnd name _ _ => some (.stop name)
  | sharedWall a b _ => some (.shared s(a,b))
  | sharedArea _ _ _ _ => none

/-- The warnings that tell a fault. -/
def Layout.told (layout : Layout Rat) (fault : WallFault) : List (Lint Rat) :=
  layout.lint.filter (·.wallFault? == some fault)

theorem eachPair_eq_flatMap {β γ : Type} (check : β → β → List γ) (l : List β) :
    eachPair check l = (pairsOf l).flatMap fun p => check p.1 p.2 := by
  induction l with
  | nil => rfl
  | cons a l ih => rw [eachPair,pairsOf_cons,List.flatMap_append,List.flatMap_map,ih]

section Faults

variable {layout : Layout Rat} {o a b : PlacedOpening Rat} {warning : Lint Rat}

theorem wallFault?_of_mem_lintEnds (h : warning ∈ lintEnds o) :
    warning.wallFault? = some (.start o.name) ∨ warning.wallFault? = some (.stop o.name) := by
  rw [lintEnds,List.mem_append,List.mem_ite_nil_right,List.mem_ite_nil_right,List.mem_singleton,
    List.mem_singleton] at h
  rcases h with ⟨_,rfl⟩ | ⟨_,rfl⟩
  · exact Or.inl rfl
  · exact Or.inr rfl

theorem wallFault?_of_mem_lintPair (h : warning ∈ lintPair a b) :
    warning.wallFault? = some (.shared s(a.name,b.name)) := by
  simp only [lintPair,List.mem_ite_nil_right,List.mem_singleton] at h
  obtain ⟨_,_,rfl⟩ := h
  rfl

theorem wallFault?_of_mem_lintMembers {a b : String × Rect Rat} (h : warning ∈ lintMembers a b) :
    warning.wallFault? = none := by
  rw [lintMembers,List.mem_ite_nil_right,List.mem_singleton] at h
  rw [h.2]
  rfl

/-- Faults of walls are told of openings and of pairs of them. -/
theorem told_eq (layout : Layout Rat) (fault : WallFault) : layout.told fault =
    (layout.openings.flatMap fun o => (lintEnds o).filter (·.wallFault? == some fault)) ++
      (pairsOf layout.openings).flatMap fun p =>
        (lintPair p.1 p.2).filter (·.wallFault? == some fault) := by
  have hmembers : (layout.composites.flatMap fun (room,shape) =>
      eachPair lintMembers (layout.members room shape)).filter (·.wallFault? == some fault) = [] := by
    refine List.filter_eq_nil_iff.mpr fun warning h => ?_
    obtain ⟨⟨room,shape⟩,_,h⟩ := List.mem_flatMap.mp h
    simp only [eachPair_eq_flatMap] at h
    obtain ⟨pair,_,h⟩ := List.mem_flatMap.mp h
    simp [wallFault?_of_mem_lintMembers h]
  rw [Layout.told,Layout.lint,List.filter_append,List.filter_append,hmembers,List.append_nil,
    eachPair_eq_flatMap,List.filter_flatMap,List.filter_flatMap]

/-- What is told of the ends of an opening is found where that opening is checked. -/
theorem told_of_opening (hd : (layout.openings.map PlacedOpening.name).Nodup)
    (ho : o ∈ layout.openings) {fault : WallFault}
    (hfault : fault = .start o.name ∨ fault = .stop o.name) :
    layout.told fault = (lintEnds o).filter (·.wallFault? == some fault) := by
  have hpairs : ((pairsOf layout.openings).flatMap fun p =>
      (lintPair p.1 p.2).filter (·.wallFault? == some fault)) = [] := by
    refine List.flatMap_eq_nil_iff.mpr fun p _ => List.filter_eq_nil_iff.mpr fun warning h => ?_
    rcases hfault with rfl | rfl <;> simp [wallFault?_of_mem_lintPair h]
  have hothers : ∀ c ∈ layout.openings, c.name ≠ o.name →
      (lintEnds c).filter (·.wallFault? == some fault) = [] := by
    intro c _ hne
    refine List.filter_eq_nil_iff.mpr fun warning h => ?_
    rcases wallFault?_of_mem_lintEnds h with h | h <;> rcases hfault with rfl | rfl <;> simp [h,hne]
  rw [told_eq,hpairs,List.append_nil,flatMap_eq_of_key hd ho hothers]

theorem told_start (hd : (layout.openings.map PlacedOpening.name).Nodup)
    (ho : o ∈ layout.openings) : layout.told (.start o.name) =
      if o.offset < -tolerance then [.startsBefore o.name (-o.offset)] else [] := by
  rw [told_of_opening hd ho (Or.inl rfl),lintEnds]
  split <;> split <;> simp [Lint.wallFault?]

theorem told_stop (hd : (layout.openings.map PlacedOpening.name).Nodup)
    (ho : o ∈ layout.openings) : layout.told (.stop o.name) =
      if o.wallLength + tolerance < o.offset + o.width then
        [.pastEnd o.name (o.offset + o.width - o.wallLength) o.wallLength] else [] := by
  rw [told_of_opening hd ho (Or.inr rfl),lintEnds]
  split <;> split <;> simp [Lint.wallFault?]

theorem told_shared (hd : (layout.openings.map PlacedOpening.name).Nodup)
    (h : (a,b) ∈ pairsOf layout.openings) :
    layout.told (.shared s(a.name,b.name)) = lintPair a b := by
  have hends : (layout.openings.flatMap fun o =>
      (lintEnds o).filter (·.wallFault? == some (.shared s(a.name,b.name)))) = [] := by
    refine List.flatMap_eq_nil_iff.mpr fun o _ => List.filter_eq_nil_iff.mpr fun warning h => ?_
    rcases wallFault?_of_mem_lintEnds h with hfault | hfault <;> simp [hfault]
  have hothers : ∀ p ∈ pairsOf layout.openings, s(p.1.name,p.2.name) ≠ s(a.name,b.name) →
      (lintPair p.1 p.2).filter (·.wallFault? == some (.shared s(a.name,b.name))) = [] := by
    intro p _ hne
    refine List.filter_eq_nil_iff.mpr fun warning h => ?_
    rw [wallFault?_of_mem_lintPair h,beq_iff_eq,Option.some.injEq,WallFault.shared.injEq]
    exact hne
  rw [told_eq,hends,List.nil_append,flatMap_eq_of_key (nodup_keys_pairsOf hd) h hothers]
  exact List.filter_eq_self.mpr fun warning h => beq_iff_eq.mpr (wallFault?_of_mem_lintPair h)

/-- A fault that is told is one of an opening or of two. -/
theorem fault_of_mem_lint (h : warning ∈ layout.lint) {fault : WallFault}
    (hfault : warning.wallFault? = some fault) :
    (∃ o ∈ layout.openings, fault = .start o.name ∨ fault = .stop o.name) ∨
      ∃ p ∈ pairsOf layout.openings, fault = .shared s(p.1.name,p.2.name) := by
  have htold : warning ∈ layout.told fault := List.mem_filter.mpr ⟨h,beq_iff_eq.mpr hfault⟩
  rw [told_eq,List.mem_append,List.mem_flatMap,List.mem_flatMap] at htold
  rcases htold with ⟨o,ho,hwarning⟩ | ⟨p,hp,hwarning⟩
  · refine Or.inl ⟨o,ho,?_⟩
    simpa [hfault] using wallFault?_of_mem_lintEnds (List.mem_filter.mp hwarning).1
  · refine Or.inr ⟨p,hp,?_⟩
    simpa [hfault] using wallFault?_of_mem_lintPair (List.mem_filter.mp hwarning).1

/-- No fault is told twice. -/
theorem nodup_faults (hd : (layout.openings.map PlacedOpening.name).Nodup) :
    (layout.lint.filterMap Lint.wallFault?).Nodup := by
  refine List.nodup_iff_count_le_one.mpr fun fault => ?_
  have hcount : (layout.lint.filterMap Lint.wallFault?).count fault =
      (layout.told fault).length := by
    rw [List.count_filterMap,List.countP_eq_length_filter,Layout.told]
  by_cases hmem : fault ∈ layout.lint.filterMap Lint.wallFault?
  · obtain ⟨warning,hwarning,hfault⟩ := List.mem_filterMap.mp hmem
    rw [hcount]
    rcases fault_of_mem_lint hwarning hfault with ⟨o,ho,rfl | rfl⟩ | ⟨⟨a,b⟩,hp,rfl⟩
    · rw [told_start hd ho]
      split <;> simp
    · rw [told_stop hd ho]
      split <;> simp
    · rw [told_shared hd hp,lintPair]
      split
      · dsimp only
        split <;> simp
      · simp
  · rw [List.count_eq_zero_of_not_mem hmem]
    exact Nat.zero_le 1

end Faults

/-! ### The layout -/

/-- The warnings about openings tell how their outlines are in the walls. -/
structure Layout.OpeningsLinted (layout : Layout Rat) : Prop where
  /-- Warnings tell all openings apart. -/
  names : (layout.openings.map (·.name.text)).Nodup
  /-- Every opening is in a wall of one room or part. -/
  hosted : ∀ o ∈ layout.openings, ∃! host, host ∈ layout.hosts ∧ o.host = host.text
  /-- There is one warning if the outline begins too far before the start of the wall. -/
  starts : ∀ o ∈ layout.openings, ∀ host ∈ layout.hosts, o.host = host.text →
    layout.told (.start o.name) =
      if (o.cover host).1 < -tolerance then [.startsBefore o.name (-(o.cover host).1)] else []
  /-- There is one if the outline ends too far beyond the other corner. -/
  stops : ∀ o ∈ layout.openings, ∀ host ∈ layout.hosts, o.host = host.text →
    layout.told (.stop o.name) = if tolerance < (o.coverPast host).2 then
      [.pastEnd o.name (o.coverPast host).2 (o.hostLength host)] else []
  /-- There is one of two openings, whatever their order, if they are in one wall and their outlines
  share too much of it. -/
  shared : ∀ a b, (a,b) ∈ pairsOf layout.openings →
    ∀ host ∈ layout.hosts, a.host = host.text → ∀ host' ∈ layout.hosts, b.host = host'.text →
      layout.told (.shared s(a.name,b.name)) =
        if (host = host' ∧ a.wall = b.wall) ∧
            tolerance < sharedLength (a.cover host) (b.cover host') then
          [.sharedWall a.name b.name (sharedLength (a.cover host) (b.cover host'))]
        else []
  /-- Nothing else is told of walls. -/
  told : ∀ fault ∈ layout.lint.filterMap Lint.wallFault?,
    (∃ o ∈ layout.openings, fault = .start o.name ∨ fault = .stop o.name) ∨
      ∃ p ∈ pairsOf layout.openings, fault = .shared s(p.1.name,p.2.name)
  once : (layout.lint.filterMap Lint.wallFault?).Nodup
  /-- Without such warnings all openings are inside their walls and apart. -/
  clean : (∀ warning ∈ layout.lint,
      warning.category ≠ "overflow" ∧ warning.category ≠ "overlap") →
    (∀ o ∈ layout.openings, ∀ host ∈ layout.hosts, o.host = host.text →
      -tolerance ≤ (o.cover host).1 ∧ (o.coverPast host).2 ≤ tolerance) ∧
    ∀ a b, (a,b) ∈ pairsOf layout.openings → ∀ host ∈ layout.hosts, a.host = host.text →
      b.host = host.text → a.wall = b.wall → sharedLength (a.cover host) (b.cover host) ≤ tolerance

section Layout

variable {plan : Plan Rat} {config : LayoutConfig Rat}

/-- The outline of an opening is where its offset and its width say. -/
theorem cover_of_mem_openings (hvalid : plan.isValid = true) {o : PlacedOpening Rat}
    (ho : o ∈ (plan.layout config).openings) {host : Host Rat}
    (hhost : host ∈ (plan.layout config).hosts) (hname : o.host = host.text) :
    o.cover host = (o.offset,o.offset + o.width) ∧
      o.coverPast host = (o.offset - o.wallLength,o.offset + o.width - o.wallLength) ∧
        o.hostLength host = o.wallLength := by
  obtain ⟨declared,hdeclared,host',hhost',hplaced⟩ := exists_host_of_mem_openings plan config ho
  have hwidth : 0 < declared.width := by
    simpa [positive,isFinite] using Plan.positive_width hvalid hdeclared
  obtain rfl : host' = host := by
    refine List.inj_on_of_nodup_map (nodup_hosts_text hvalid) hhost' hhost ?_
    rw [← hname,hplaced]
    rfl
  generalize o.wall = wall at hplaced
  subst hplaced
  have hcover (past : Rat) : wall.cover (wall.point (host'.rect.corner wall.start) past 0)
      (declared.placedOn config wall host'.text host'.rect).drawing.outline =
        (declared.offset - past,declared.offset + declared.width - past) := by
    simp only [Opening.placedOn]
    rw [placeOnWall_eq _ _ _ hwidth,Wall.cover_outline _ _ _ _ hwidth]
  refine ⟨?_,?_,?_⟩
  · have hstart := hcover 0
    rw [Wall.point_zero,sub_zero,sub_zero] at hstart
    exact hstart
  · rw [PlacedOpening.coverPast]
    change wall.cover (host'.rect.corner wall.stop) _ = _
    rw [Wall.corner_stop,hcover]
    rfl
  · change wall.progress (host'.rect.corner wall.start) (host'.rect.corner wall.stop) = _
    rw [Wall.corner_stop,Wall.progress_point]
    rfl

theorem nodup_openings_text (plan : Plan Rat) (config : LayoutConfig Rat) :
    ((plan.layout config).openings.map (·.name.text)).Nodup := by
  have hslots := List.pairwise_map.mp (nodup_slots_layout plan config)
  exact List.pairwise_map.mpr (hslots.imp fun hne he => hne (OpeningName.slot_of_text he))

theorem existsUnique_host (hvalid : plan.isValid = true) {o : PlacedOpening Rat}
    (ho : o ∈ (plan.layout config).openings) :
    ∃! host, host ∈ (plan.layout config).hosts ∧ o.host = host.text := by
  obtain ⟨declared,_,host,hhost,hplaced⟩ := exists_host_of_mem_openings plan config ho
  have hname : o.host = host.text := by
    rw [hplaced]
    rfl
  refine ⟨host,⟨hhost,hname⟩,?_⟩
  rintro host' ⟨hhost',hname'⟩
  exact List.inj_on_of_nodup_map (nodup_hosts_text hvalid) hhost' hhost (hname'.symm.trans hname)

theorem nodup_names (plan : Plan Rat) (config : LayoutConfig Rat) :
    ((plan.layout config).openings.map PlacedOpening.name).Nodup := by
  refine List.Nodup.of_map OpeningName.text ?_
  rw [List.map_map]
  exact nodup_openings_text plan config

section Told

variable (hvalid : plan.isValid = true)
include hvalid

theorem told_start_of_cover {o : PlacedOpening Rat} (ho : o ∈ (plan.layout config).openings)
    {host : Host Rat} (hhost : host ∈ (plan.layout config).hosts) (hname : o.host = host.text) :
    (plan.layout config).told (.start o.name) =
      if (o.cover host).1 < -tolerance then [.startsBefore o.name (-(o.cover host).1)] else [] := by
  rw [told_start (nodup_names plan config) ho,(cover_of_mem_openings hvalid ho hhost hname).1]

theorem told_stop_of_cover {o : PlacedOpening Rat} (ho : o ∈ (plan.layout config).openings)
    {host : Host Rat} (hhost : host ∈ (plan.layout config).hosts) (hname : o.host = host.text) :
    (plan.layout config).told (.stop o.name) = if tolerance < (o.coverPast host).2 then
      [.pastEnd o.name (o.coverPast host).2 (o.hostLength host)] else [] := by
  obtain ⟨_,hpast,hlength⟩ := cover_of_mem_openings hvalid ho hhost hname
  simp only [told_stop (nodup_names plan config) ho,hpast,hlength,lt_sub_iff_add_lt']

theorem told_shared_of_cover {a b : PlacedOpening Rat}
    (hab : (a,b) ∈ pairsOf (plan.layout config).openings) {host : Host Rat}
    (hhost : host ∈ (plan.layout config).hosts) (hname : a.host = host.text) {host' : Host Rat}
    (hhost' : host' ∈ (plan.layout config).hosts) (hname' : b.host = host'.text) :
    (plan.layout config).told (.shared s(a.name,b.name)) =
      if (host = host' ∧ a.wall = b.wall) ∧
          tolerance < sharedLength (a.cover host) (b.cover host') then
        [.sharedWall a.name b.name (sharedLength (a.cover host) (b.cover host'))]
      else [] := by
  have hmem := (mem_pairsOf_iff.mp hab).subset
  have ha : a ∈ (plan.layout config).openings := hmem (by simp)
  have hb : b ∈ (plan.layout config).openings := hmem (by simp)
  have hsame : a.host = b.host ↔ host = host' := by
    rw [hname,hname']
    exact ⟨List.inj_on_of_nodup_map (nodup_hosts_text hvalid) hhost hhost',congrArg Host.text⟩
  rw [told_shared (nodup_names plan config) hab,(cover_of_mem_openings hvalid ha hhost hname).1,
    (cover_of_mem_openings hvalid hb hhost' hname').1]
  simp only [lintPair,hsame,sharedLength,least_rat,greatest_rat]
  by_cases hwall : host = host' ∧ a.wall = b.wall <;> simp [hwall]

end Told

/-- A warning that tells of a wall is of one of two categories. -/
theorem category_of_wallFault? {warning : Lint Rat} {fault : WallFault}
    (h : warning.wallFault? = some fault) :
    warning.category = "overflow" ∨ warning.category = "overlap" := by
  cases warning with
  | startsBefore _ _ => exact Or.inl rfl
  | pastEnd _ _ _ => exact Or.inl rfl
  | sharedWall _ _ _ => exact Or.inr rfl
  | sharedArea _ _ _ _ => cases h

/-- Openings of a valid plan are linted as they are drawn. -/
theorem openings_linted (plan : Plan Rat) (config : LayoutConfig Rat)
    (hvalid : plan.isValid = true) : (plan.layout config).OpeningsLinted where
  names := nodup_openings_text plan config
  hosted _ ho := existsUnique_host hvalid ho
  starts _ ho _ hhost hname := told_start_of_cover hvalid ho hhost hname
  stops _ ho _ hhost hname := told_stop_of_cover hvalid ho hhost hname
  shared _ _ hab _ hhost hname _ hhost' hname' :=
    told_shared_of_cover hvalid hab hhost hname hhost' hname'
  told fault h := by
    obtain ⟨warning,hwarning,hfault⟩ := List.mem_filterMap.mp h
    exact fault_of_mem_lint hwarning hfault
  once := nodup_faults (nodup_names plan config)
  clean hclean := by
    have hnone (fault : WallFault) : (plan.layout config).told fault = [] := by
      refine List.filter_eq_nil_iff.mpr fun warning hwarning hfault => ?_
      obtain ⟨hoverflow,hoverlap⟩ := hclean warning hwarning
      exact (category_of_wallFault? (beq_iff_eq.mp hfault)).elim hoverflow hoverlap
    refine ⟨fun o ho host hhost hname => ⟨?_,?_⟩,fun a b hab host hhost hname hname' hwall => ?_⟩
    · have htold := told_start_of_cover hvalid ho hhost hname
      rw [hnone,eq_comm,ite_eq_right_iff] at htold
      exact not_lt.mp fun hbefore => List.cons_ne_nil _ _ (htold hbefore)
    · have htold := told_stop_of_cover hvalid ho hhost hname
      rw [hnone,eq_comm,ite_eq_right_iff] at htold
      exact not_lt.mp fun hpast => List.cons_ne_nil _ _ (htold hpast)
    · have htold := told_shared_of_cover hvalid hab hhost hname hhost hname'
      rw [hnone,eq_comm,ite_eq_right_iff] at htold
      exact not_lt.mp fun hshared => List.cons_ne_nil _ _ (htold ⟨⟨rfl,hwall⟩,hshared⟩)

end Layout

/-- A window that begins before the wall of a room, and one that runs past the wall of a part, where
it overlaps a door. -/
def crowdedWalls : Plan Rat where
  rooms := [unitRoom "hall" originName [unitPart "bay" parentName]]
  doors := [⟨⟨"hall.bay:left",0,3 / 4,none⟩,.inwardsRight,.normal⟩]
  windows := [⟨"hall:top",-1 / 2,1,none⟩,⟨"bay:left",1 / 2,1,none⟩]

theorem openings_linted_crowdedWalls :
    crowdedWalls.isValid = true ∧
    (crowdedWalls.layout .standard).lint.filter (·.wallFault?.isSome) =
      [.startsBefore ⟨.window,0,"hall",.top⟩ (1 / 2),
        .pastEnd ⟨.window,1,"hall.bay",.left⟩ (1 / 2) 1,
        .sharedWall ⟨.door,0,"hall.bay",.left⟩ ⟨.window,1,"hall.bay",.left⟩ (1 / 4)] ∧
    (crowdedWalls.layout .standard).OpeningsLinted :=
  ⟨by decide +kernel,by decide +kernel,openings_linted crowdedWalls .standard (by decide +kernel)⟩

end Blueprint
