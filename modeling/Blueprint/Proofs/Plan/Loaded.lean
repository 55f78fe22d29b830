import Blueprint.Plan.Load
import Blueprint.Proofs.Document.Record
import Blueprint.Proofs.Plan.Reference

/-!
What is known of a plan that is loaded, in whatever format it is written: it is valid, and
everything in it is pinned to a name, for a reference without one is not read.
-/

namespace Blueprint

open Document (Node Fault required exists_of_bind exists_of_map)
open Document.RecordField (keeps_of)
open Document.Record (exists_of_read)

namespace Attachment

/-- An attachment to something. -/
def Named (a : Attachment) : Prop := a.target ≠ ""

theorem named_of_parse {text : String} {a : Attachment} (h : parse text = .ok a) : a.Named := by
  obtain ⟨_,_,htarget,_,rfl⟩ := (Attachment.readAsWritten.accepted text a).mp h
  exact htarget

theorem named_of_read {n : Node} {a : Attachment} (h : Attachment.read n = .ok a) : a.Named := by
  obtain ⟨text,_,h⟩ := exists_of_bind h
  split at h
  · rename_i a' hparse
    obtain rfl : a' = a := Except.ok.inj h
    exact named_of_parse hparse
  · cases h

end Attachment

/-- What rooms and parts are pinned to. -/
def Room.attachments (r : Room Float) : List Attachment := r.attachTo :: r.parts.map (·.attachTo)

def Plan.attachments (plan : Plan Float) : List Attachment := plan.rooms.flatMap Room.attachments

/-- A draft of a room or part in which all attachments that are read are named. -/
structure Room.Draft.Named (d : Room.Draft) : Prop where
  attachTo : ∀ a, d.attachTo = some a → a.Named
  parts : ∀ ps, d.parts = some ps → ∀ p ∈ ps, p.attachTo.Named

theorem Room.keeps_blockFields : ∀ f ∈ blockFields, f.Keeps Draft.Named := by
  have hother {d d' : Draft} (h : d.Named) (ha : d'.attachTo = d.attachTo)
      (hp : d'.parts = d.parts) : d'.Named := ⟨ha ▸ h.attachTo,hp ▸ h.parts⟩
  simp only [blockFields,List.forall_mem_cons]
  refine ⟨?_,?_,?_,?_,?_,?_,?_,by simp⟩
  case refine_6 =>
    refine keeps_of fun d n a h hread => ⟨fun a' ha => ?_,h.parts⟩
    obtain rfl : a = a' := Option.some.inj ha
    exact Attachment.named_of_read hread
  all_goals exact keeps_of fun d n c h _ => hother h rfl rfl

theorem Room.keeps_furnishingField : furnishingField.Keeps Draft.Named :=
  keeps_of fun _ _ _ h _ => ⟨h.attachTo,h.parts⟩

theorem Room.Draft.named_blank : Draft.Named {} := ⟨nofun,nofun⟩

theorem Room.Draft.Named.finishBlock {d : Draft} (h : d.Named) {b : Block Float}
    (hb : finishBlock d = .ok b) : b.attachTo.Named := by
  obtain ⟨_,_,hb⟩ := exists_of_bind hb
  obtain ⟨_,_,hb⟩ := exists_of_bind hb
  obtain ⟨_,_,hb⟩ := exists_of_bind hb
  obtain ⟨a,ha,hb⟩ := exists_of_bind hb
  obtain rfl := Except.ok.inj hb
  refine h.attachTo a ?_
  cases hd : d.attachTo with
  | none => simp [hd,required] at ha
  | some a' => simpa [hd,required] using ha

theorem Part.named_of_read {n : Node} {p : Part Float} (h : Part.read n = .ok p) :
    p.attachTo.Named := by
  have hfields : ∀ f ∈ record.fields, f.Keeps Room.Draft.Named :=
    List.forall_mem_append.mpr ⟨Room.keeps_blockFields,by simpa using Room.keeps_furnishingField⟩
  obtain ⟨d,hd,hfinish⟩ := exists_of_read Room.Draft.named_blank hfields h
  obtain ⟨b,hb,hfinish⟩ := exists_of_bind hfinish
  obtain rfl := Except.ok.inj hfinish
  exact hd.finishBlock hb

theorem Room.keeps_partField : partField.Keeps Draft.Named := by
  refine keeps_of fun d n ps h hread => ⟨h.attachTo,fun ps' hps p hp => ?_⟩
  obtain rfl : ps = ps' := Option.some.inj hps
  obtain ⟨n,hn⟩ := Node.exists_of_asList hread p hp
  exact Part.named_of_read hn

theorem Room.named_of_read {n : Node} {r : Room Float} (h : Room.read n = .ok r) :
    ∀ a ∈ r.attachments, a.Named := by
  have hfields : ∀ f ∈ record.fields, f.Keeps Draft.Named :=
    List.forall_mem_append.mpr
      ⟨keeps_blockFields,by simpa using ⟨keeps_partField,keeps_furnishingField⟩⟩
  obtain ⟨d,hd,hfinish⟩ := exists_of_read Draft.named_blank hfields h
  obtain ⟨b,hb,hfinish⟩ := exists_of_bind hfinish
  obtain rfl := Except.ok.inj hfinish
  refine List.forall_mem_cons.mpr ⟨hd.finishBlock hb,List.forall_mem_map.mpr ?_⟩
  change ∀ p ∈ d.parts.getD [], p.attachTo.Named
  cases hparts : d.parts with
  | none => simp
  | some ps => exact hd.parts ps hparts

theorem Plan.named_of_read {n : Node} {plan : Plan Float} (h : Plan.read n = .ok plan) :
    ∀ a ∈ plan.attachments, a.Named := by
  let P (d : Draft) : Prop := ∀ rs, d.rooms = some rs → ∀ r ∈ rs, ∀ a ∈ r.attachments, a.Named
  have hfields : ∀ f ∈ record.fields, f.Keeps P := by
    simp only [record,fields,List.forall_mem_cons]
    refine ⟨keeps_of fun d n rs _ hread rs' hrs r hr => ?_,keeps_of fun _ _ _ h _ => h,
      keeps_of fun _ _ _ h _ => h,by simp⟩
    obtain rfl : rs = rs' := Option.some.inj hrs
    obtain ⟨n,hn⟩ := Node.exists_of_asList hread r hr
    exact Room.named_of_read hn
  have hblank : P record.blank := nofun
  obtain ⟨d,hd,hfinish⟩ := exists_of_read hblank hfields h
  obtain rfl := Except.ok.inj hfinish
  refine List.forall_mem_flatMap.mpr ?_
  change ∀ r ∈ d.rooms.getD [], _
  cases hrooms : d.rooms with
  | none => simp
  | some rs => exact hd rs hrooms

theorem Toml.exists_of_decode {β : Type} {expect : Node → Except Fault β} {text : List Char} {b : β}
    (h : decode expect text = .ok b) : ∃ n, expect n = .ok b := by
  obtain ⟨root,_,h⟩ := exists_of_bind h
  exact ⟨root.node,h⟩

theorem Json.exists_of_decode {β : Type} {expect : Node → Except Fault β} {text : List Char} {b : β}
    (h : decode expect text = .ok b) : ∃ n, expect n = .ok b := by
  obtain ⟨b',hb,h⟩ := exists_of_bind h
  split at h
  · cases h
  · obtain rfl : b' = b := Except.ok.inj h
    exact ⟨_,hb⟩

/-- Whatever the format, a plan is read off a tree. -/
theorem Plan.exists_of_decode {format : PlanFormat} {source : List Char} {plan : Plan Float}
    (h : decode format source = .ok plan) : ∃ n, Plan.read n = .ok plan := by
  unfold decode at h
  split at h
  · split at h
    · rename_i plan' hdecode
      obtain rfl : plan' = plan := Except.ok.inj h
      exact Toml.exists_of_decode hdecode
    · cases h
  · split at h
    · rename_i plan' hdecode
      obtain rfl : plan' = plan := Except.ok.inj h
      exact Json.exists_of_decode hdecode
    · cases h

/-- A plan that is loaded is valid, and all its attachments are named. -/
theorem Plan.valid_and_named_of_load {format : PlanFormat} {source : List Char} {plan : Plan Float}
    (h : load format source = .ok plan) :
    plan.isValid = true ∧ ∀ a ∈ plan.attachments, a.Named := by
  unfold load at h
  split at h
  · cases h
  · rename_i plan' hdecode
    split at h
    · rename_i hvalid
      obtain rfl : plan' = plan := Except.ok.inj h
      obtain ⟨n,hn⟩ := exists_of_decode hdecode
      exact ⟨hvalid,named_of_read hn⟩
    · cases h

end Blueprint
