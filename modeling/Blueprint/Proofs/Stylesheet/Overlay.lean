import Blueprint.Stylesheet.Basic
import Mathlib.Data.List.Nodup

/-!
Sheets laid over one another. A palette that gives each token once is known by the order of its
tokens and by what they resolve to. Laying a palette over it puts new tokens behind those that are
there, and lets the upper values win; so it does not matter in which groups sheets are laid over one
another.
-/

namespace Blueprint

namespace Palette

variable {p q r base upper : Palette} {token value : String}

theorem distinct_cons {e : String × String} :
    Distinct (e :: p) ↔ e.1 ∉ p.tokens ∧ p.Distinct := List.nodup_cons

/-! ### What a palette says -/

theorem resolve_eq_none_iff : p.resolve token = none ↔ token ∉ p.tokens := by
  induction p with
  | nil => simp [resolve]
  | cons e rest ih =>
    by_cases h : e.1 = token
    · simp [resolve,h]
    · simp [resolve,h,Ne.symm h,ih]

theorem isSome_resolve_iff : (p.resolve token).isSome ↔ token ∈ p.tokens := by
  rw [← not_iff_not,← resolve_eq_none_iff]
  simp

/-- A palette made anew from its tokens and what they resolve to. -/
theorem Distinct.eq_map (h : p.Distinct) :
    p = p.tokens.map fun token => (token,(p.resolve token).getD "") := by
  induction p with
  | nil => rfl
  | cons e rest ih =>
    obtain ⟨hnot,hrest⟩ := distinct_cons.mp h
    have htail : (tokens rest).map (fun token => (token,(resolve (e :: rest) token).getD "")) =
        (tokens rest).map fun token => (token,(resolve rest token).getD "") := by
      refine List.map_congr_left fun token htoken => ?_
      have hne : e.1 ≠ token := fun hsame => hnot (hsame ▸ htoken)
      rw [resolve,if_neg hne]
    rw [tokens_cons,List.map_cons,htail,← ih hrest,resolve,if_pos rfl]
    rfl

theorem Distinct.ext (hp : p.Distinct) (hq : q.Distinct) (htokens : p.tokens = q.tokens)
    (hresolve : ∀ token, p.resolve token = q.resolve token) : p = q := by
  rw [hp.eq_map,hq.eq_map,htokens]
  simp only [hresolve]

theorem Distinct.mem_iff (h : p.Distinct) : (token,value) ∈ p ↔ p.resolve token = some value := by
  induction p with
  | nil => simp [resolve]
  | cons e rest ih =>
    obtain ⟨hnot,hrest⟩ := distinct_cons.mp h
    rw [List.mem_cons,ih hrest,resolve]
    by_cases htoken : e.1 = token
    · subst htoken
      rw [resolve_eq_none_iff.mpr hnot]
      simp [Prod.ext_iff,eq_comm]
    · simp [htoken,Prod.ext_iff,Ne.symm htoken]

/-! ### One palette over another -/

theorem mem_define {e : String × String} (h : e ∈ p.define token value) :
    e = (token,value) ∨ e ∈ p := by
  induction p with
  | nil => exact Or.inl (List.mem_singleton.mp h)
  | cons e' rest ih =>
    rw [define] at h
    split at h
    · rename_i htoken
      rcases List.mem_cons.mp h with rfl | h
      · exact Or.inl (by rw [htoken])
      · exact Or.inr (List.mem_cons_of_mem e' h)
    · rcases List.mem_cons.mp h with rfl | h
      · exact Or.inr List.mem_cons_self
      · exact (ih h).imp_right (List.mem_cons_of_mem e')

/-- Laying palettes over one another makes up no values. -/
theorem mem_overlay {e : String × String} (h : e ∈ base.overlay upper) :
    e ∈ base ∨ e ∈ upper := by
  induction upper generalizing base with
  | nil => exact Or.inl h
  | cons e' rest ih =>
    rw [overlay_cons] at h
    rcases ih h with h | h
    · rcases mem_define h with rfl | h
      · exact Or.inr List.mem_cons_self
      · exact Or.inl h
    · exact Or.inr (List.mem_cons_of_mem e' h)

/-- No token is lost. -/
theorem tokens_subset_overlay : base.tokens ⊆ (base.overlay upper).tokens := by
  induction upper generalizing base with
  | nil => exact List.Subset.refl _
  | cons e rest ih =>
    refine fun token htoken => ih ?_
    rw [tokens_define]
    split
    · exact htoken
    · exact List.mem_append_left _ htoken

/-- Tokens keep their place, and new ones follow in order. -/
theorem tokens_overlay (h : upper.Distinct) : (base.overlay upper).tokens =
    base.tokens ++ upper.tokens.filter (· ∉ base.tokens) := by
  induction upper generalizing base with
  | nil => simp [Palette.overlay]
  | cons e rest ih =>
    obtain ⟨hnot,hrest⟩ := distinct_cons.mp h
    rw [overlay_cons,ih hrest,tokens_define]
    by_cases hmem : e.1 ∈ base.tokens
    · simp [hmem]
    · have hnew : (tokens rest).filter (· ∉ base.tokens ++ [e.1]) =
          (tokens rest).filter (· ∉ base.tokens) := by
        refine List.filter_congr fun token htoken => ?_
        have hne : token ≠ e.1 := fun hsame => hnot (hsame ▸ htoken)
        simp [hne]
      rw [if_neg hmem,hnew,tokens_cons,List.filter_cons_of_pos (by simpa using hmem),
        List.append_assoc,List.singleton_append]

/-- The upper palette wins. -/
theorem resolve_overlay (h : upper.Distinct) :
    (base.overlay upper).resolve token = (upper.resolve token).or (base.resolve token) := by
  induction upper generalizing base with
  | nil => rfl
  | cons e rest ih =>
    obtain ⟨hnot,hrest⟩ := distinct_cons.mp h
    rw [overlay_cons,ih hrest,resolve_define,resolve]
    by_cases htoken : e.1 = token
    · subst htoken
      simp [resolve_eq_none_iff.mpr hnot]
    · simp [htoken]

theorem overlay_assoc (hp : p.Distinct) (hq : q.Distinct) (hr : r.Distinct) :
    (p.overlay q).overlay r = p.overlay (q.overlay r) := by
  refine hp.overlay.overlay.ext hp.overlay ?_ fun token => ?_
  · have hnew : r.tokens.filter (· ∉ p.tokens ++ q.tokens.filter (· ∉ p.tokens)) =
        (r.tokens.filter (· ∉ q.tokens)).filter (· ∉ p.tokens) := by
      rw [List.filter_filter]
      refine List.filter_congr fun token _ => ?_
      by_cases hmem : token ∈ p.tokens <;> simp [hmem]
    rw [tokens_overlay hr,tokens_overlay hq,hnew,tokens_overlay hq.overlay,tokens_overlay hr,
      List.filter_append,List.append_assoc]
  · rw [resolve_overlay hr,resolve_overlay hq,resolve_overlay hq.overlay,resolve_overlay hr,
      Option.or_assoc]

/-- Entered one after the other, distinct tokens stay as they are. -/
theorem Distinct.overlay_nil (h : p.Distinct) : Palette.overlay [] p = p := by
  refine distinct_nil.overlay.ext h ?_ fun token => ?_
  · rw [tokens_overlay h]
    simp
  · rw [resolve_overlay h]
    exact Option.or_none

end Palette

/-! ### Sheets -/

namespace Stylesheet

variable {a b base : Stylesheet} {sheets : List Stylesheet} {token : String}

theorem mem_overlayAll {e : String × String} (h : e ∈ (base.overlayAll sheets).colors) :
    e ∈ base.colors ∨ ∃ s ∈ sheets, e ∈ s.colors := by
  induction sheets generalizing base with
  | nil => exact Or.inl h
  | cons s sheets ih =>
    rcases ih h with h | ⟨s',hs',h⟩
    · exact (Palette.mem_overlay h).imp_right fun h => ⟨s,List.mem_cons_self,h⟩
    · exact Or.inr ⟨s',List.mem_cons_of_mem s hs',h⟩

theorem isSome_resolve_overlayAll (h : (base.resolve token).isSome) :
    ((base.overlayAll sheets).resolve token).isSome := by
  induction sheets generalizing base with
  | nil => exact h
  | cons s sheets ih =>
    exact ih (Palette.isSome_resolve_iff.mpr
      (Palette.tokens_subset_overlay (Palette.isSome_resolve_iff.mp h)))

theorem overlay_assoc (a b c : Stylesheet) :
    (a.overlay b).overlay c = a.overlay (b.overlay c) := by
  simp only [overlay,Option.or_assoc,Palette.overlay_assoc a.distinct b.distinct c.distinct]

theorem resolve_overlay :
    (a.overlay b).resolve token = (b.resolve token).or (a.resolve token) :=
  Palette.resolve_overlay b.distinct

/-- A token has the value that the last sheet gives to it. -/
theorem resolve_overlayAll : (base.overlayAll sheets).resolve token =
    (base :: sheets).reverse.findSome? (·.resolve token) := by
  induction sheets generalizing base with
  | nil => simp [overlayAll]
  | cons s sheets ih =>
    have hnext : base.overlayAll (s :: sheets) = (base.overlay s).overlayAll sheets := rfl
    have hlower : [s,base].findSome? (·.resolve token) =
        (s.resolve token).or (base.resolve token) := by
      cases hs : s.resolve token <;> cases hbase : base.resolve token <;> simp [hs,hbase]
    rw [hnext,ih,List.reverse_cons,List.findSome?_append,List.reverse_cons,List.reverse_cons,
      List.append_assoc,List.findSome?_append,List.singleton_append,hlower,
      List.findSome?_singleton,resolve_overlay]

/-- The sheet over the standard one tells of a token what the sheet alone tells with the standard
one to fall back on. -/
theorem resolve_standard_overlay
    (h : (a.resolve token).isSome ∨ (standard.resolve token).isSome) :
    (standard.overlay a).resolve token = some (a.resolveOrStandard token) := by
  rw [resolve_overlay,resolveOrStandard]
  cases ha : a.resolve token with
  | some v => rfl
  | none =>
    cases hstandard : standard.resolve token with
    | some v => rfl
    | none => simp [ha,hstandard] at h

end Stylesheet

end Blueprint
