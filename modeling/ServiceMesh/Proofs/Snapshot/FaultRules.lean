import ServiceMesh.Proofs.Fault.Expiry
import ServiceMesh.Proofs.Fault.Store
import ServiceMesh.Proofs.Snapshot.Origin
import ServiceMesh.Proofs.Snapshot.Readiness

/-! The rules in snapshots follow the faults. Behind each update that finds services and gets at the
faults, the rules are those of the faults that stand and are in force; an update that finds no services
leaves the rules that there are, and one that does not get at the faults goes by the last ones. -/
namespace ServiceMesh

/-- The rules of a virtual host are those of the faults that target its service. -/
theorem mem_faultRules {rule : FaultRule} {service : String} {faults : List Fault} :
    rule ∈ faultRules service faults ↔ ∃ fault ∈ faults, fault.target.selects service = true ∧
      rule = ⟨fault.id, service, [fault.source.pattern], fault.delay.toMillis, 100⟩ := by
  rw [faultRules, List.mem_mergeSort, List.mem_map]
  constructor
  · rintro ⟨fault, member, rfl⟩
    obtain ⟨listed, selects⟩ := List.mem_filter.mp member
    exact ⟨fault, listed, selects, rfl⟩
  · rintro ⟨fault, listed, selects, rfl⟩
    exact ⟨fault, List.mem_filter.mpr ⟨listed, selects⟩, rfl⟩

/-- All virtual hosts have the rules that follow from some faults. -/
def SnapshotContent.Ruled (content : SnapshotContent) (faults : List Fault) : Prop :=
  ∀ routes ∈ content.routes, ∀ host ∈ routes.virtualHosts, host.faults = faultRules host.name faults

/-- All rules that a group receives. -/
def SnapshotContent.rules (content : SnapshotContent) : List FaultRule :=
  content.routes.flatMap fun routes => routes.virtualHosts.flatMap VirtualHost.faults

theorem BuilderConfig.content_ruled (config : BuilderConfig) (group : ConsumerGroup)
    (global : GlobalSnapshot) (faults : List Fault) :
    (config.content group global faults).Ruled faults := by
  intro routes member host listed
  obtain ⟨service, -, rfl⟩ := BuilderConfig.mem_virtualHosts member listed
  rfl

namespace Updater

variable {updater : Updater} {mesh : MultiZone} {faults : List Fault}

/-- All that is stored has the rules of the faults of the last build. -/
def Ruled (updater : Updater) : Prop :=
  ∀ group snapshot, updater.store.snapshot? group = some snapshot →
    ∃ last, updater.last = some last ∧ snapshot.content.Ruled last.faults

theorem Ruled.tick (ruled : updater.Ruled) (coupled : updater.Coupled) :
    (updater.tick mesh faults).Ruled := by
  intro group snapshot stored
  refine ⟨⟨mesh, updater.globalFor mesh, faults⟩, rfl, ?_⟩
  rcases coupled.tick_cases stored with made | ⟨spared, before⟩
  · rw [made]
    exact BuilderConfig.content_ruled _ _ _ _
  · -- A group is spared only if the faults are still the same.
    obtain ⟨last, built, rules⟩ := ruled group snapshot before
    obtain ⟨calm, -⟩ := Built.unchanged_of_needsRebuild spared
    rw [haveFaultsChanged, built] at calm
    rwa [show last.faults = faults by simpa using calm] at rules

theorem Ruled.update (ruled : updater.Ruled) (coupled : updater.Coupled)
    (mesh : Watched (Option MultiZone)) (faults : FaultService) (now : Time) :
    (updater.update mesh faults now).1.Ruled := by
  rcases updater.update_cases mesh faults now with idle | ⟨state, active, behind, -, -, ticks⟩
  · rw [idle]
    exact ruled
  · rw [ticks]
    have noted : Ruled { updater with
      seenMesh := mesh.revision, seenFaults := behind.revision } := ruled
    exact noted.tick (coupled.seen mesh.revision behind.revision)

end Updater

/-! ### Faults that stand -/

/-- Holds for the submissions and deletions of an id. -/
def SystemEvent.Concerns (id : String) : SystemEvent → Prop
  | .submit _ fault => fault.id = id
  | .delete other => other = id
  | _ => False

namespace System

variable {system : System} {config : BuilderConfig} {steps front : List SystemStep} {step : SystemStep}
  {event : SystemEvent} {fault : Fault} {since : Time}

/-- An event that came about behind the first of some steps, when the store of faults was within
reach. -/
def Reached (config : BuilderConfig) (steps front : List SystemStep) (event : SystemEvent) : Prop :=
  front ++ [.event event] <+: steps ∧ (behind config front).faults.outage = none

/-- A fault was submitted with success, and that was the last change of its id. -/
def Stands (config : BuilderConfig) (steps : List SystemStep) (fault : Fault) (since : Time) : Prop :=
  ∃ front, Reached config steps front (.submit since fault) ∧
    ∀ later event, Reached config steps later event → event.Concerns fault.id →
      later.length ≤ front.length

theorem reached_snoc : Reached config (steps ++ [step]) front event ↔
    Reached config steps front event ∨
      front = steps ∧ step = .event event ∧ (behind config steps).faults.outage = none := by
  unfold Reached
  rw [List.prefix_concat_iff]
  constructor
  · rintro ⟨last | before, reachable⟩
    · obtain ⟨rfl, same⟩ := List.append_inj' last rfl
      exact .inr ⟨rfl, (List.singleton_inj.mp same).symm, reachable⟩
    · exact .inl ⟨before, reachable⟩
  · rintro (⟨before, reachable⟩ | ⟨rfl, rfl, reachable⟩)
    · exact ⟨.inr before, reachable⟩
    · exact ⟨.inl rfl, reachable⟩

theorem Reached.length_lt (reached : Reached config steps front event) :
    front.length < steps.length := by
  have short := reached.1.length_le
  rw [List.length_append, List.length_singleton] at short
  exact short

/-- A step that changes nothing about an id leaves standing what stands. -/
theorem Stands.snoc (stands : Stands config steps fault since)
    (other : ∀ event, step = .event event → (behind config steps).faults.outage = none →
      ¬ event.Concerns fault.id) :
    Stands config (steps ++ [step]) fault since := by
  obtain ⟨front, reached, last⟩ := stands
  refine ⟨front, reached_snoc.mpr (.inl reached), fun later event also concerns => ?_⟩
  rcases reached_snoc.mp also with before | ⟨-, isStep, reachable⟩
  · exact last later event before concerns
  · exact absurd concerns (other event isStep reachable)

theorem stands_submit (reachable : (behind config steps).faults.outage = none) :
    Stands config (steps ++ [.event (.submit since fault)]) fault since := by
  refine ⟨steps, reached_snoc.mpr (.inr ⟨rfl, rfl, reachable⟩), fun later event also _ => ?_⟩
  rcases reached_snoc.mp also with before | ⟨rfl, -⟩
  · exact before.length_lt.le
  · exact Nat.le_refl _

/-- All entries of the store come from faults that stand. -/
def Standing (config : BuilderConfig) (steps : List SystemStep) : Prop :=
  ∀ id entry, (behind config steps).faults.store.byId.get? id = some entry →
    entry.fault.id = id ∧
      ∃ since, entry = .submitted since entry.fault ∧ Stands config steps entry.fault since

/-- An update that finds services builds with the faults that are to be had. -/
theorem perform_update {state : MultiZone} (published : system.mesh.value = some state)
    (services : state.HasService) (now : Time) :
    let active := system.updater.faultsFor system.faults now
    system.perform (.event (.update now)) = { system with
      updater := { system.updater with
        seenMesh := system.mesh.revision, seenFaults := active.2.revision }.tick state active.1
      faults := active.2 } := by
  have updated := system.updater.update_busy published
    (MultiZone.hasNoServices_eq_false_iff.mpr services) system.faults now
  dsimp only [perform, handle]
  rw [updated]

/-- What is filed under an id behind a step was submitted by it, or it was filed before, and the step does
not change the id with success. -/
theorem filed_of_perform {id : String} {entry : TimedFault}
    (filed : (system.perform step).faults.store.byId.get? id = some entry) :
    (∃ since fault, step = .event (.submit since fault) ∧ system.faults.outage = none ∧
      fault.id = id ∧ entry = .submitted since fault) ∨
    system.faults.store.byId.get? id = some entry ∧
      ∀ event, step = .event event → system.faults.outage = none → ¬ event.Concerns id := by
  cases step with
  | withdraw => exact .inr ⟨filed, fun event isStep => by contradiction⟩
  | event event =>
      have only {changed : SystemEvent}
          (spared : system.faults.outage = none → ¬ changed.Concerns id) (event : SystemEvent)
          (isStep : SystemStep.event changed = .event event) (reachable : system.faults.outage = none) :
          ¬ event.Concerns id := SystemStep.event.inj isStep ▸ spared reachable
      cases event with
      | mesh state => exact .inr ⟨filed, only fun _ => False.elim⟩
      | outage problem => exact .inr ⟨filed, only fun _ => False.elim⟩
      | subscribe group => exact .inr ⟨filed, only fun _ => False.elim⟩
      | unsubscribe follower => exact .inr ⟨filed, only fun _ => False.elim⟩
      | update now =>
          refine .inr ⟨?_, only fun _ => False.elim⟩
          rcases system.updater.update_faults system.mesh system.faults now with
            same | ⟨listed, lists⟩
          · dsimp only [perform, handle] at filed
            rwa [same] at filed
          · exact FaultService.filed_of_list lists filed
      | submit since fault =>
          rcases FaultService.filed_of_submit filed with ⟨reachable, own, same⟩ | ⟨before, apart⟩
          · exact .inl ⟨since, fault, rfl, reachable, own, same⟩
          · exact .inr ⟨before, only apart⟩
      | delete gone =>
          obtain ⟨before, apart⟩ := FaultService.filed_of_delete filed
          exact .inr ⟨before, only apart⟩

theorem Standing.snoc (standing : Standing config steps) (step : SystemStep) :
    Standing config (steps ++ [step]) := by
  intro id entry filed
  rw [behind_snoc] at filed
  rcases filed_of_perform filed with ⟨since, fault, rfl, reachable, rfl, rfl⟩ | ⟨before, other⟩
  · exact ⟨rfl, since, rfl, stands_submit reachable⟩
  · obtain ⟨rfl, since, same, stands⟩ := standing id entry before
    exact ⟨rfl, since, same, stands.snoc other⟩

theorem standing (config : BuilderConfig) (steps : List SystemStep) : Standing config steps := by
  induction steps using List.reverseRecOn with
  | nil => exact fun id entry found => by contradiction
  | append_singleton steps step ih => exact ih.snoc step

theorem mem_listed_stands {now : Time} {listed : List Fault} {rest : FaultService}
    (found : (behind config steps).faults.list now = .ok (listed, rest)) (member : fault ∈ listed) :
    ∃ since, Stands config steps fault since ∧
      (now < since + fault.duration.nanos ∨ clockLimit ≤ since + fault.duration.nanos) := by
  obtain ⟨-, rfl, -⟩ := FaultService.list_eq_ok_iff.mp found
  obtain ⟨entry, kept, rfl⟩ := List.mem_map.mp member
  obtain ⟨id, kept⟩ := SortedMap.mem_values.mp kept
  rw [FaultStore.purge, SortedMap.get?_filter] at kept
  obtain ⟨stored, live⟩ := Option.filter_eq_some_iff.mp kept
  obtain ⟨-, since, same, stands⟩ := standing config steps id entry stored
  rw [same] at live
  exact ⟨since, stands, TimedFault.isLive_submitted.mp live⟩

/-! ### Rules -/

theorem perform_ruled (ruled : system.updater.Ruled) (coupled : system.updater.Coupled)
    (step : SystemStep) : (system.perform step).updater.Ruled := by
  cases step with
  | withdraw => exact ruled
  | event event =>
      cases event with
      | mesh state => exact ruled
      | submit now fault => exact ruled
      | delete id => exact ruled
      | outage problem => exact ruled
      | subscribe group =>
          intro other snapshot stored
          exact ruled other snapshot ((SnapshotStore.snapshot?_subscribe _ _ _).symm.trans stored)
      | unsubscribe follower =>
          intro other snapshot stored
          exact ruled other snapshot ((SnapshotStore.snapshot?_unsubscribe _ _ _).symm.trans stored)
      | update now =>
          dsimp only [perform, handle]
          exact ruled.update coupled system.mesh system.faults now

theorem behind_ruled (config : BuilderConfig) (steps : List SystemStep) :
    (behind config steps).updater.Ruled := by
  induction steps using List.reverseRecOn with
  | nil => exact fun group snapshot stored => by contradiction
  | append_singleton steps step ih =>
      rw [behind_snoc]
      exact perform_ruled ih (behind_coupled config steps) step

/-- What is stored behind an update that finds services was made by it, or was stored before. -/
theorem update_stored (coupled : system.updater.Coupled) {state : MultiZone}
    (published : system.mesh.value = some state) (services : state.HasService) {now : Time}
    {group : ConsumerGroup} {snapshot : Snapshot}
    (stored : (system.perform (.event (.update now))).updater.store.snapshot? group =
      some snapshot) :
    snapshot.content = system.updater.builder.config.content group (system.updater.globalFor state)
        (system.updater.faultsFor system.faults now).1 ∨
      system.updater.store.snapshot? group = some snapshot := by
  rw [perform_update published services] at stored
  dsimp only at stored
  have seen := coupled.seen system.mesh.revision (system.updater.faultsFor system.faults now).2.revision
  rcases seen.tick_cases stored with made | ⟨-, before⟩
  · exact .inl made
  · exact .inr before

/-- Behind an update that finds services all rules are those of the faults that it went by. -/
theorem update_ruled (finds : (behind config steps).FindsServices) (now : Time)
    {group : ConsumerGroup} {snapshot : Snapshot}
    (stored : (behind config (steps ++ [.event (.update now)])).updater.store.snapshot? group =
      some snapshot) :
    snapshot.content.Ruled
      ((behind config steps).updater.faultsFor (behind config steps).faults now).1 := by
  have ruled := behind_ruled config (steps ++ [.event (.update now)])
  obtain ⟨last, built, rules⟩ := ruled group snapshot stored
  obtain ⟨state, published, services⟩ := finds
  rw [behind_snoc, perform_update published services, Updater.tick_last] at built
  obtain rfl := Option.some.inj built
  exact rules

/-- An update that finds services and gets at the faults leaves in each stored snapshot just the rules
of the faults that are listed then, and lists only faults that were submitted with success, were
neither replaced nor deleted with success since, and last beyond now or beyond what the clock can tell.
If it does not get at the faults, it leaves just the rules of the faults of the last build. One that
finds no services leaves the snapshots as they are. -/
theorem rules_follow_faults (config : BuilderConfig) (steps : List SystemStep) (now : Time) :
    let before := behind config steps
    let after := behind config (steps ++ [.event (.update now)])
    (∀ listed rest, before.FindsServices → before.faults.list now = .ok (listed, rest) →
      after.faults.list now = .ok (listed, after.faults) ∧
      (∀ fault ∈ listed, ∃ since, Stands config steps fault since ∧
        (now < since + fault.duration.nanos ∨ clockLimit ≤ since + fault.duration.nanos)) ∧
      ∀ group snapshot, after.updater.store.snapshot? group = some snapshot →
        ∀ routes ∈ snapshot.content.routes, ∀ host ∈ routes.virtualHosts, ∀ rule,
          rule ∈ host.faults ↔ ∃ fault ∈ listed, fault.target.selects host.name = true ∧ rule =
            ⟨fault.id, host.name, [fault.source.pattern], fault.delay.toMillis, 100⟩) ∧
    (∀ problem, before.FindsServices → before.faults.list now = .error problem →
      ∀ group snapshot, after.updater.store.snapshot? group = some snapshot →
        ∀ routes ∈ snapshot.content.routes, ∀ host ∈ routes.virtualHosts, ∀ rule,
          rule ∈ host.faults ↔ ∃ fault ∈ (before.updater.last.map Built.faults).getD [],
            fault.target.selects host.name = true ∧ rule =
              ⟨fault.id, host.name, [fault.source.pattern], fault.delay.toMillis, 100⟩) ∧
    (¬ before.FindsServices → ∀ group,
      after.updater.store.snapshot? group = before.updater.store.snapshot? group) := by
  intro before after
  refine ⟨fun listed rest finds found => ⟨?_, fun fault => mem_listed_stands found, ?_⟩,
    fun problem finds failed => ?_, fun nothing group => ?_⟩
  · obtain ⟨state, published, services⟩ := finds
    have left : after.faults = rest := by
      rw [show after = _ from behind_snoc config steps _, perform_update published services,
        Updater.faultsFor, found]
    rw [left]
    exact FaultService.list_again found
  · intro group snapshot stored routes member host shown rule
    have rules := update_ruled finds now stored routes member host shown
    rw [Updater.faultsFor, found] at rules
    rw [rules]
    exact mem_faultRules
  · intro group snapshot stored routes member host shown rule
    have rules := update_ruled finds now stored routes member host shown
    rw [Updater.faultsFor, failed] at rules
    rw [rules]
    exact mem_faultRules
  · rw [show after = _ from behind_snoc config steps _, update_idle nothing]

/-- A fault that has ended takes its rule with it, although nobody was told. -/
theorem rules_follow_faults_expired :
    let web : ConsumerGroup := ⟨"web", .global, .services (SortedSet.ofList ["a"])⟩
    let mesh : MultiZone := ⟨[⟨"home", .local, Services.ofList [⟨"a", ∅⟩]⟩]⟩
    let slow : Fault := ⟨"slow", ⟨"*"⟩, ⟨"a"⟩, .ofMillis 1, .ofMillis 1⟩
    let config : BuilderConfig := ⟨.zero, none, [], false⟩
    let steps := [.event (.subscribe web), .event (.mesh mesh), .event (.submit 0 slow),
      .event (.update 0)]
    (behind config steps).updater.last.map Built.faults = some [slow] ∧ ∃ snapshot,
      (behind config (steps ++ [.event (.update 1_000_000)])).updater.store.snapshot? web =
        some snapshot ∧
      ∀ routes ∈ snapshot.content.routes, ∀ host ∈ routes.virtualHosts, host.faults = [] := by
  intro web mesh slow config steps
  have built : (behind config steps).updater.last.map Built.faults = some [slow] := by
    decide +kernel
  have published : (behind config steps).mesh.value = some mesh := by decide +kernel
  have followed : (behind config steps).updater.store.prune.isRegistered web = true := by
    decide +kernel
  have reachable : (behind config steps).faults.outage = none := by decide +kernel
  have none_left : [] = (behind config steps).faults.store.live 1_000_000 := by decide +kernel
  clear_value steps
  have finds : (behind config steps).FindsServices :=
    ⟨mesh, published, _, List.mem_cons_self, "a", ⟨"a", ∅⟩, by decide⟩
  have settles := update_settles (behind_coupled config steps) finds 1_000_000
  rw [← behind_snoc] at settles
  obtain ⟨snapshot, stored⟩ :=
    Option.isSome_iff_exists.mp (settles.stored web ((settles.groups web).trans followed))
  obtain ⟨gone, -, -⟩ := rules_follow_faults config steps 1_000_000
  obtain ⟨-, -, rules⟩ :=
    gone [] _ finds (FaultService.list_eq_ok_iff.mpr ⟨reachable, none_left, rfl⟩)
  refine ⟨built, snapshot, stored, fun routes member host shown => ?_⟩
  refine List.eq_nil_iff_forall_not_mem.mpr fun rule listed => ?_
  obtain ⟨fault, none, -⟩ := (rules web snapshot stored routes member host shown rule).mp listed
  contradiction

/-- A rule stays although its fault is deleted, if the registry loses all its services or the store of
faults is out of reach. -/
theorem rules_outlive_faults :
    let web : ConsumerGroup := ⟨"web", .global, .services (SortedSet.ofList ["a"])⟩
    let mesh : MultiZone := ⟨[⟨"home", .local, Services.ofList [⟨"a", ∅⟩]⟩]⟩
    let slow : Fault := ⟨"slow", ⟨"*"⟩, ⟨"a"⟩, .ofMillis 1, .ofMillis 1⟩
    let config : BuilderConfig := ⟨.zero, none, [], false⟩
    let empty : MultiZone := ⟨[⟨"home", .local, ∅⟩]⟩
    let front : List SystemStep := [.event (.subscribe web), .event (.mesh mesh),
      .event (.submit 0 slow), .event (.update 0), .event (.delete "slow")]
    let emptied := front ++ [.event (.mesh empty), .event (.update 1)]
    let unreachable := front ++ [.event (.outage (some ⟨"down"⟩)), .event (.update 1)]
    let outlived (steps : List SystemStep) : Prop :=
      (behind config steps).mesh.value.isSome = true ∧
        (behind config steps).faults.store.live 1 = [] ∧
        ∃ snapshot, (behind config steps).updater.store.snapshot? web = some snapshot ∧
          snapshot.content.rules = [⟨"slow", "a", ["*"], 1, 100⟩]
    outlived emptied ∧ outlived unreachable := by
  intro web mesh slow config empty front emptied unreachable outlived
  -- The first update gives the group a snapshot with the rule.
  have first : ∃ snapshot, (behind config front).updater.store.snapshot? web = some snapshot ∧
      snapshot.content.rules = [⟨"slow", "a", ["*"], 1, 100⟩] := by
    have published : (behind config (front.take 3)).mesh.value = some mesh := by decide +kernel
    let cut := front.take 3
    have coupled := behind_coupled config cut
    obtain ⟨snapshot, stored, content⟩ := coupled.update_first (by decide +kernel) published
      (by decide) (SnapshotStore.mem_groups.mpr (by decide +kernel) : web ∈ _)
      (behind config cut).faults 0
    refine ⟨snapshot, ?_, ?_⟩
    · rw [show front = front.take 3 ++ [.event (.update 0)] ++ [.event (.delete "slow")] from rfl,
        behind_snoc, behind_snoc]
      exact stored
    · rw [content]
      decide +kernel
  obtain ⟨snapshot, stored, rules⟩ := first
  refine ⟨⟨by decide +kernel, by decide +kernel, snapshot, ?_, rules⟩,
    by decide +kernel, by decide +kernel, ?_⟩
  · -- An update that finds no services leaves the snapshot.
    have nothing : ¬ (behind config (front ++ [.event (.mesh empty)])).FindsServices := by
      rintro ⟨state, published, services⟩
      rw [behind_snoc] at published
      obtain rfl := Option.some.inj published
      have busy := MultiZone.hasNoServices_eq_false_iff.mpr services
      contradiction
    rw [show emptied = front ++ [_] ++ [.event (.update 1)] from rfl, behind_snoc,
      update_idle nothing, behind_snoc]
    exact stored
  · -- An update that does not get at the faults goes by the last ones.
    let cut := front ++ [.event (.outage (some ⟨"down"⟩))]
    have published : (behind config cut).mesh.value = some mesh := by decide +kernel
    have services : mesh.HasService := ⟨_, List.mem_cons_self, "a", ⟨"a", ∅⟩, by decide⟩
    have settles := update_settles (behind_coupled config cut) ⟨mesh, published, services⟩ 1
    obtain ⟨later, found⟩ := Option.isSome_iff_exists.mp (settles.stored web (by
      rw [settles.groups]
      decide +kernel))
    rw [show unreachable = cut ++ [.event (.update 1)] from rfl, behind_snoc]
    refine ⟨later, found, ?_⟩
    rcases update_stored (behind_coupled config cut) published services found with made | kept
    · rw [made]
      decide +kernel
    · have before : (behind config cut).updater.store.snapshot? web = some snapshot := by
        rw [show cut = front ++ [_] from rfl, behind_snoc]
        exact stored
      obtain rfl := Option.some.inj (before.symm.trans kept)
      exact rules

end System

end ServiceMesh
