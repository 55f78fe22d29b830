import Blueprint.Proofs.Json.Whole
import Blueprint.Proofs.Plan.Written

/-!
Loaded plans survive being written. Whatever format a plan is loaded from, its JSON text is loaded
as the same plan, as long as each number in it is carried by its own text. Whole numbers are, up to
a hundred trillion.
-/

namespace Blueprint

/-- A plan that is valid and says what everything is pinned to is loaded from its JSON text. -/
theorem Plan.load_compact {plan : Plan Float} (hvalid : plan.isValid = true)
    (hnamed : ∀ a ∈ plan.attachments, a.Named) (hcarried : ∀ x ∈ plan.numbers, Json.Carried x) :
    load .json plan.toJson.compact.toList = .ok plan := by
  have hread : Json.decode Plan.read plan.toJson.compact.toList = .ok plan :=
    Json.decode_compact (carried_toJson hcarried) fun _ hn => read_of_shows hnamed hn
  have hdecode : decode .json plan.toJson.compact.toList = .ok plan := by
    simp only [decode,hread]
  simp only [load,hdecode,hvalid,if_true]

/-- The JSON text of a loaded plan is loaded as the same plan, if its numbers are carried; whole
numbers of moderate size are. -/
theorem load_toJson :
    (∀ n : Int, n.natAbs ≤ 10 ^ 14 → Json.Carried (Float.ofInt n)) ∧
      ∀ {format : PlanFormat} {source : List Char} {plan : Plan Float},
        Plan.load format source = .ok plan → (∀ x ∈ plan.numbers, Json.Carried x) →
          Plan.load .json plan.toJson.compact.toList = .ok plan := by
  refine ⟨fun n hn => Json.carried_ofInt (by omega),fun h hcarried => ?_⟩
  obtain ⟨hvalid,hnamed⟩ := Plan.valid_and_named_of_load h
  exact Plan.load_compact hvalid hnamed hcarried

/-- A plan whose texts need escaping, with an attachment target that holds a colon. -/
def escapedPlan : Plan Float where
  rooms := [{
    id := "den \"\\\n"
    name := some "Büro"
    width := Float.ofInt 4
    depth := Float.ofInt 3
    anchor := .topLeft
    attachTo := ⟨"a:b",.topRight⟩
    offset := (0,0)
    parts := []
    furnishings := [] }]
  doors := [{
    room := "den:top"
    offset := 0
    width := Float.ofInt 1
    depth := none
    swing := .inwardsRight
    kind := .normal }]
  windows := []

def escapedSource : String :=
  "[[rooms]]\nid = \"den \\\"\\\\\\n\"\nname = 'Büro'\nwidth = 4\ndepth = 3\n" ++
    "attachTo = 'a:b:top-right'\n[[doors]]\nroom = 'den:top'\nwidth = 1\n"

theorem load_toJson_escaped : Plan.load .toml escapedSource.toList = .ok escapedPlan ∧
    (∀ x ∈ escapedPlan.numbers, Json.Carried x) ∧
      Plan.load .json escapedPlan.toJson.compact.toList = .ok escapedPlan := by
  have hload : Plan.load .toml escapedSource.toList = .ok escapedPlan :=
    Json.eq_ok_of_toOption (by decide +kernel)
  have hnumbers : ∀ x ∈ escapedPlan.numbers, ∃ n ∈ [0,1,3,4], x = Float.ofInt n := by
    decide +kernel
  have hcarried : ∀ x ∈ escapedPlan.numbers, Json.Carried x := by
    intro x hx
    obtain ⟨n,hn,rfl⟩ := hnumbers x hx
    have hsmall : ∀ n ∈ [0,1,3,4], Int.natAbs n ≤ 10 ^ 14 := by decide
    exact load_toJson.1 n (hsmall n hn)
  exact ⟨hload,hcarried,load_toJson.2 hload hcarried⟩

end Blueprint
