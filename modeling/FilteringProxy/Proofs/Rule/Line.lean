import FilteringProxy.Rule.Line

/-! # What an accepted line says

A line with the form of a hosts line is read as one and is never refused. Any other line is an
address with modifiers, and is accepted exactly if there is something to read and its modifiers are
accepted.
-/

namespace FilteringProxy

namespace RuleLine

theorem eq_of_mem_sinkholeAddresses {address : Text} (sinkhole : address ∈ sinkholeAddresses) :
    address = "0.0.0.0" ∨ address = "127.0.0.1" := by
  simpa only [sinkholeAddresses, List.mem_cons, List.not_mem_nil, or_false] using sinkhole

theorem findSome?_sinkhole {address : Text} (sinkhole : address ∈ sinkholeAddresses)
    (t : Text) :
    sinkholeAddresses.findSome? (Text.after? · (address ++ t)) = some t := by
  rcases eq_of_mem_sinkholeAddresses sinkhole with rfl | rfl
  · rfl
  · rfl

/-- What stands behind the dollar sign, if there is one. -/
def modifiersOf : Option Text → Except RuleError ModifierSet
  | none => .ok {}
  | some written => ModifierSet.parse written

theorem parse_hosts {line part : Text} (named : hostsPart? line = some part) :
    parse line = .ok (.hosts (hostNames part)) := by
  rw [parse, named]

theorem parse_pattern {line address : Text} {written : Option Text}
    (unnamed : hostsPart? line = none) (cut : cutModifiers line = (address, written)) :
    parse line =
      if !areModifiers written || (address = [] && written.isNone) then .error .unknownFormat
      else (modifiersOf written).map (.pattern (anchorOf address).1 (anchorOf address).2) := by
  simp only [parse, unnamed, cut]
  refine ite_congr rfl (fun _ => rfl) fun _ => ?_
  cases written with
  | none => rfl
  | some written => cases ModifierSet.parse written <;> rfl

/-- The line is accepted, and this is what it says. -/
inductive Says (line : Text) : RuleLine → Prop where
  | hosts {part : Text} (named : hostsPart? line = some part) :
      Says line (.hosts (hostNames part))
  | pattern {address : Text} {written : Option Text} {modifiers : ModifierSet}
      (unnamed : hostsPart? line = none) (cut : cutModifiers line = (address, written))
      (full : (!areModifiers written || (address = [] && written.isNone)) = false)
      (read : modifiersOf written = .ok modifiers) :
      Says line (.pattern (anchorOf address).1 (anchorOf address).2 modifiers)

theorem parse_eq_ok {line : Text} {r : RuleLine} : parse line = .ok r ↔ Says line r := by
  constructor
  · intro accepted
    cases named : hostsPart? line with
    | some part =>
        rw [parse_hosts named] at accepted
        cases accepted
        exact .hosts named
    | none =>
        cases cut : cutModifiers line with | mk address written =>
          rw [parse_pattern named cut] at accepted
          split at accepted
          · cases accepted
          · rename_i full
            cases read : modifiersOf written with
            | error fault =>
                rw [read] at accepted
                cases accepted
            | ok modifiers =>
                rw [read] at accepted
                cases accepted
                exact .pattern named cut (Bool.eq_false_iff.mpr full) read
  · intro said
    cases said with
    | hosts named => exact parse_hosts named
    | pattern unnamed cut full read =>
        rw [parse_pattern unnamed cut, full, read]
        rfl

theorem parse_refused {line address modifiers : Text} (unnamed : hostsPart? line = none)
    (cut : cutModifiers line = (address, some modifiers))
    (refused : ∃ fault, ModifierSet.parse modifiers = .error fault) :
    ∃ fault, parse line = .error fault := by
  obtain ⟨fault, wrong⟩ := refused
  rw [parse_pattern unnamed cut, modifiersOf, wrong]
  split
  · exact ⟨_, rfl⟩
  · exact ⟨fault, rfl⟩

theorem anchorOf_everything {written : Text} (h : (anchorOf written).1 = .everything) :
    (anchorOf written).2 = [] := by
  unfold anchorOf at h ⊢
  split at h
  · rfl
  · cases h
  · split at h <;> cases h
  · cases h

theorem address_of_everything {line address : Text} {modifiers : ModifierSet}
    (accepted : parse line = .ok (.pattern .everything address modifiers)) : address = [] := by
  generalize said : RuleLine.pattern .everything address modifiers = r at accepted
  cases parse_eq_ok.mp accepted with
  | hosts named => cases said
  | pattern unnamed cut full read =>
      obtain ⟨anchored, rfl, rfl⟩ := RuleLine.pattern.inj said
      exact anchorOf_everything anchored.symm

end RuleLine

end FilteringProxy
