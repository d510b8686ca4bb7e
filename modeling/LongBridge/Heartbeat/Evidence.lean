import LongBridge.Heartbeat.Scan
import Mathlib.Data.List.Induction

namespace LongBridge.Heartbeat
open Effects Notifications

section judged
variable (setup : Setup)

-- A readable report that matches a target, is as recent as the window and the last due time ask for, and is accepted
def Acceptable (object : ReportObject) (key : String) : Prop :=
  ∃ payload reason, setup.cat object.uri = some payload ∧
    (∃ why, payloadMatches setup.env setup.matchPayloadTarget setup.requiredServices setup.requiredTargets payload = (true,key,why)) ∧
    setup.dueSince ≤ object.updated ∧ (∀ due, setup.requiredDueAt key = some due → due ≤ object.updated) ∧
    isAcceptedReport setup.env payload = .ok (true,reason)

-- Where a report gets as far as its status, the status can be read.
def StatusReadable (object : ReportObject) : Prop :=
  ∀ payload key why, setup.cat object.uri = some payload →
    payloadMatches setup.env setup.matchPayloadTarget setup.requiredServices setup.requiredTargets payload = (true,key,why) →
    setup.dueSince ≤ object.updated → (∀ due, setup.requiredDueAt key = some due → due ≤ object.updated) →
    ∃ stated, reportStatus payload = .ok stated

-- Where a report is accepted, the time it proves can be read.
def ProofReadable (object : ReportObject) : Prop :=
  ∀ payload key, setup.cat object.uri = some payload → Acceptable setup object key → ∃ proof, proofOf setup payload = .ok proof

def Readable (object : ReportObject) : Prop := StatusReadable setup object ∧ ProofReadable setup object

variable {setup} {object : ReportObject} {key : String} {report : Accepted} {payload : Fields}

theorem isAcceptedReport_runs {env : HeartbeatEnv} :
    (∃ answer, isAcceptedReport env payload = .ok answer) ↔ ∃ stated, reportStatus payload = .ok stated := by
  unfold isAcceptedReport
  cases reportStatus payload with
  | error raised =>
    constructor
    · rintro ⟨_,ran⟩
      cases ran
    · rintro ⟨_,ran⟩
      cases ran
  | ok stated => exact ⟨fun _ => ⟨_,rfl⟩,fun _ => ⟨_,rfl⟩⟩

section matched
variable {matched : Bool} {serviceName why : String} (read : setup.cat object.uri = some payload)
  (answer : payloadMatches setup.env setup.matchPayloadTarget setup.requiredServices setup.requiredTargets payload = (matched,serviceName,why))
include read answer

-- What is acceptable once the object is read and matched
theorem acceptable_iff : Acceptable setup object key ↔ matched = true ∧ serviceName = key ∧ setup.dueSince ≤ object.updated ∧
    (∀ due, setup.requiredDueAt key = some due → due ≤ object.updated) ∧ ∃ reason, isAcceptedReport setup.env payload = .ok (true,reason) := by
  constructor
  · rintro ⟨other,reason,found,⟨said,same⟩,recent,due,accepted⟩
    obtain rfl := Option.some.inj (read.symm.trans found)
    obtain ⟨rfl,rest⟩ := Prod.mk.inj (answer.symm.trans same)
    exact ⟨rfl,(Prod.mk.inj rest).1,recent,due,reason,accepted⟩
  · rintro ⟨rfl,rfl,recent,due,reason,accepted⟩
    exact ⟨payload,reason,read,⟨why,answer⟩,recent,due,accepted⟩

theorem statusReadable_iff : StatusReadable setup object ↔ (matched = true → setup.dueSince ≤ object.updated →
    (∀ due, setup.requiredDueAt serviceName = some due → due ≤ object.updated) → ∃ stated, reportStatus payload = .ok stated) := by
  constructor
  · rintro held rfl recent due
    exact held payload serviceName why read answer recent due
  · intro held other key said found same recent due
    obtain rfl := Option.some.inj (read.symm.trans found)
    obtain ⟨rfl,rest⟩ := Prod.mk.inj (answer.symm.trans same)
    obtain rfl := (Prod.mk.inj rest).1
    exact held rfl recent due

end matched

-- What the checks of one object come to
inductive Judged (setup : Setup) (object : ReportObject) : Except PyExc (Option (String × Accepted × Fields)) → Prop where
  | dropped : (∀ key, ¬Acceptable setup object key) → StatusReadable setup object → Judged setup object (.ok none)
  | kept (key : String) (report : Accepted) (payload : Fields) : (∀ other, Acceptable setup object other ↔ other = key) →
      StatusReadable setup object → report.uri = object.uri → report.updated = object.updated → setup.cat object.uri = some payload →
      Judged setup object (.ok (some (key,report,payload)))
  | broken (raised : PyExc) : (∀ key, ¬Acceptable setup object key) → ¬StatusReadable setup object → Judged setup object (.error raised)

theorem judged (setup : Setup) (object : ReportObject) : Judged setup object (judge setup object) := by
  unfold judge
  cases read : setup.cat object.uri with
  | none =>
    refine .dropped ?_ ?_
    · rintro key ⟨payload,reason,found,_⟩
      rw [read] at found
      cases found
    · intro payload key why found
      rw [read] at found
      cases found
  | some payload =>
    dsimp only
    cases answer : payloadMatches setup.env setup.matchPayloadTarget setup.requiredServices setup.requiredTargets payload with
    | mk matched parts =>
      obtain ⟨serviceName,why⟩ := parts
      dsimp only
      split
      · rename_i unmatched
        refine .dropped (fun key held => ?_) ((statusReadable_iff read answer).mpr fun on => ?_)
        · exact absurd ((acceptable_iff read answer).mp held).1 (by simp [unmatched])
        · exact absurd on (by simp [unmatched])
      · rename_i matching
        split
        · rename_i old
          exact .dropped (fun key held => absurd ((acceptable_iff read answer).mp held).2.2.1 (not_le.mpr old))
            ((statusReadable_iff read answer).mpr fun _ recent => absurd recent (not_le.mpr old))
        · rename_i recent
          split
          · rename_i early
            obtain ⟨due,known,later⟩ := Option.any_eq_true _ _ |>.mp early
            have late : ¬ due ≤ object.updated := not_le.mpr (of_decide_eq_true later)
            refine .dropped (fun key held => ?_) ((statusReadable_iff read answer).mpr fun _ _ dues => absurd (dues due known) late)
            obtain ⟨_,rfl,_,dues,_⟩ := (acceptable_iff read answer).mp held
            exact late (dues due known)
          · rename_i timely
            have on : matched = true := by simpa using matching
            have dues : ∀ due, setup.requiredDueAt serviceName = some due → due ≤ object.updated := by
              intro due known
              by_contra late
              exact timely (Option.any_eq_true _ _ |>.mpr ⟨due,known,decide_eq_true (not_le.mp late)⟩)
            cases accepted : isAcceptedReport setup.env payload with
            | error raised =>
              refine .broken raised (fun key held => ?_) (fun held => ?_)
              · obtain ⟨_,_,_,_,reason,ran⟩ := (acceptable_iff read answer).mp held
                rw [accepted] at ran
                cases ran
              · obtain ⟨answered,ran⟩ := isAcceptedReport_runs.mpr ((statusReadable_iff read answer).mp held on (not_lt.mp recent) dues)
                rw [accepted] at ran
                cases ran
            | ok verdict =>
              obtain ⟨ok,reason⟩ := verdict
              have stated : StatusReadable setup object := (statusReadable_iff read answer).mpr fun _ _ _ => isAcceptedReport_runs.mp ⟨_,accepted⟩
              cases ok with
              | false =>
                refine .dropped (fun key held => ?_) stated
                obtain ⟨_,_,_,_,other,ran⟩ := (acceptable_iff read answer).mp held
                rw [accepted] at ran
                cases ran
              | true =>
                refine .kept serviceName _ payload (fun other => ?_) stated rfl rfl read
                rw [acceptable_iff read answer]
                exact ⟨fun held => held.2.1.symm,fun same => ⟨on,same.symm,not_lt.mp recent,same ▸ dues,reason,accepted⟩⟩

-- The key that the checks of an object come to
def judgedKey (setup : Setup) (object : ReportObject) : Option String := (judge setup object).toOption.join.map Prod.fst

theorem acceptable_judged : Acceptable setup object key ↔ judgedKey setup object = some key := by
  have checked := judged setup object
  unfold judgedKey
  generalize judge setup object = answer at checked
  cases checked with
  | dropped none _ => exact ⟨fun held => absurd held (none key),fun same => by cases same⟩
  | kept own report payload accepts =>
    rw [accepts key]
    exact ⟨fun same => by rw [same]; rfl,fun same => (Option.some.inj same).symm⟩
  | broken raised none => exact ⟨fun held => absurd held (none key),fun same => by cases same⟩

theorem statusReadable_judged : StatusReadable setup object ↔ (judge setup object).isOk = true := by
  have checked := judged setup object
  generalize judge setup object = answer at checked
  cases checked with
  | dropped _ readable => exact ⟨fun _ => rfl,fun _ => readable⟩
  | kept _ _ _ _ readable => exact ⟨fun _ => rfl,fun _ => readable⟩
  | broken raised _ unreadable => exact ⟨fun readable => absurd readable unreadable,fun same => by cases same⟩

end judged

end LongBridge.Heartbeat
