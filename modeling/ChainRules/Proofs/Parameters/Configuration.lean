import ChainRules.Config
import ChainRules.Proofs.Parameters.Merging
import Mathlib

set_option autoImplicit false

namespace ChainRules

namespace Network

def GoesBy (network : Network) (name : String) : Prop := name = network.id ∨ name = network.paymentProtocolId

theorem parse_eq_some_iff (name : String) (network : Network) : parse? name = some network ↔ network.GoesBy name := by
  constructor
  · intro parsed
    rcases Option.or_eq_some_iff.mp parsed with found | ⟨_, found⟩
    · have same : (network.id == name) = true := List.find?_some (p := fun other : Network => other.id == name) found
      exact .inl (eq_of_beq same).symm
    · have same : (network.paymentProtocolId == name) = true :=
        List.find?_some (p := fun other : Network => other.paymentProtocolId == name) found
      exact .inr (eq_of_beq same).symm
  · rintro (rfl | rfl)
    · cases network <;> rfl
    · cases network <;> rfl

theorem goes_by_unique (name : String) (network other : Network) (left : network.GoesBy name)
    (right : other.GoesBy name) : network = other := by
  rw [← parse_eq_some_iff] at left right
  exact Option.some.inj (left.symm.trans right)

theorem parse_of_goes_by (name : String) (network : Network) (named : network.GoesBy name) :
    parse name = .ok network := by
  rw [parse, (parse_eq_some_iff name network).mpr named]

theorem parse_unknown (name : String) (unknown : ∀ network : Network, ¬ network.GoesBy name) :
    parse name = .error (.unknownNetwork name) := by
  cases parsed : parse? name with
  | none => rw [parse, parsed]
  | some network => exact absurd ((parse_eq_some_iff name network).mp parsed) (unknown network)

end Network

namespace ChainParameters

def genesisOf (network : Network) : BlockHash := (ofNetwork network).genesisHash

theorem built_in_checkpoints (network : Network) : (ofNetwork network).checkpoints.entries = [(0, genesisOf network)] := by
  cases network <;> rfl

end ChainParameters

namespace Checkpoints

theorem consistent_with_one (checkpoints : Checkpoints) (height : UInt32) (hash : BlockHash) :
    Consistent ((height, hash) :: checkpoints.entries) ↔
      checkpoints.get? height = none ∨ checkpoints.get? height = some hash := by
  constructor
  · intro consistent
    cases held : checkpoints.get? height with
    | none => exact .inl rfl
    | some bound =>
        have member := List.mem_cons_of_mem (height, hash) ((checkpoints.get_eq_some_iff height bound).mp held)
        exact .inr (congrArg some (consistent height bound hash member List.mem_cons_self))
  · intro agrees queried a b left right
    have held : ∀ value, (queried, value) ∈ (height, hash) :: checkpoints.entries →
        (queried = height ∧ value = hash) ∨ checkpoints.get? queried = some value := by
      intro value member
      rcases List.mem_cons.mp member with same | within
      · exact .inl (Prod.mk.inj same)
      · exact .inr ((checkpoints.get_eq_some_iff queried value).mpr within)
    have settled : ∀ value, checkpoints.get? height = some value → value = hash := by
      intro value bound
      rcases agrees with none | same
      · rw [none] at bound
        cases bound
      · exact Option.some.inj (bound.symm.trans same)
    rcases held a left with ⟨rfl, rfl⟩ | heldA
    · rcases held b right with ⟨_, same⟩ | heldB
      · exact same.symm
      · exact (settled b heldB).symm
    · rcases held b right with ⟨rfl, rfl⟩ | heldB
      · exact settled a heldA
      · exact Option.some.inj (heldA.symm.trans heldB)

end Checkpoints

namespace ConsensusConfig

open Checkpoints (Consistent)
open ChainParameters (ofNetwork genesisOf)

variable (config : ConsensusConfig)

theorem chain_parameters_of_network (network : Network) (named : network.GoesBy config.network) :
    config.chainParameters = (ofNetwork network).withCheckpoints config.checkpoints.entries := by
  rw [chainParameters, resolvedNetwork, Network.parse_of_goes_by config.network network named]

theorem chain_parameters_unknown (unknown : ∀ network : Network, ¬ network.GoesBy config.network) :
    config.chainParameters = .error (.unknownNetwork config.network) := by
  rw [chainParameters, resolvedNetwork, Network.parse_unknown config.network unknown]

theorem built_in_consistent_iff (network : Network) :
    Consistent ((ofNetwork network).checkpoints.entries ++ config.checkpoints.entries) ↔
      config.checkpoints.get? 0 = none ∨ config.checkpoints.get? 0 = some (genesisOf network) := by
  rw [ChainParameters.built_in_checkpoints]
  exact config.checkpoints.consistent_with_one 0 (genesisOf network)

theorem resolved_merge (network : Network) (named : network.GoesBy config.network) (params : ChainParameters) :
    config.chainParameters = .ok params ↔
      params = { ofNetwork network with checkpoints := params.checkpoints } ∧
        (config.checkpoints.get? 0 = none ∨ config.checkpoints.get? 0 = some (genesisOf network)) ∧
        ∀ entry, entry ∈ params.checkpoints.entries ↔
          entry ∈ (ofNetwork network).checkpoints.entries ++ config.checkpoints.entries := by
  rw [config.chain_parameters_of_network network named, ChainParameters.with_checkpoints_eq_ok_iff,
    Checkpoints.merge_eq_ok_iff, built_in_consistent_iff]

theorem resolves_iff (network : Network) (named : network.GoesBy config.network) :
    (∃ params, config.chainParameters = .ok params) ↔
      config.checkpoints.get? 0 = none ∨ config.checkpoints.get? 0 = some (genesisOf network) := by
  constructor
  · rintro ⟨params, resolved⟩
    exact ((config.resolved_merge network named params).mp resolved).2.1
  · intro agrees
    obtain ⟨merged, found⟩ := (ofNetwork network).checkpoints.merge_consistent config.checkpoints.entries
      ((config.built_in_consistent_iff network).mpr agrees)
    refine ⟨{ ofNetwork network with checkpoints := merged }, ?_⟩
    rw [config.chain_parameters_of_network network named, ChainParameters.with_checkpoints_eq_ok_iff]
    exact ⟨rfl, found⟩

-- No other height can be in conflict, since the built-in checkpoint is the only one to contradict.
theorem chain_parameters_conflict (network : Network) (named : network.GoesBy config.network) (hash : BlockHash)
    (held : config.checkpoints.get? 0 = some hash) (different : hash ≠ genesisOf network) :
    config.chainParameters = .error (.config (.checkpointConflict ⟨0, genesisOf network, hash⟩)) := by
  have inconsistent : ¬ Consistent ((ofNetwork network).checkpoints.entries ++ config.checkpoints.entries) := by
    rw [built_in_consistent_iff, held]
    rintro (none | same)
    · cases none
    · exact different (Option.some.inj same)
  obtain ⟨before, after, height, bound, offered, reached, _, contradicted, apart, failed⟩ :=
    (ofNetwork network).checkpoints.merge_inconsistent config.checkpoints.entries inconsistent
  have given : (height, offered) ∈ config.checkpoints.entries := by
    rw [reached]
    simp
  rw [ChainParameters.built_in_checkpoints] at contradicted
  rcases List.mem_cons.mp contradicted with builtIn | earlier
  · obtain ⟨rfl, rfl⟩ := Prod.mk.inj builtIn
    have same : offered = hash := Option.some.inj (((config.checkpoints.get_eq_some_iff 0 offered).mpr given).symm.trans held)
    rw [config.chain_parameters_of_network network named, ChainParameters.withCheckpoints, failed, same]
  · have also : (height, bound) ∈ config.checkpoints.entries := by
      rw [reached]
      exact List.mem_append_left _ earlier
    exact absurd (config.checkpoints.entries_consistent height bound offered also given) apart

theorem genesis_cannot_be_displaced (network : Network) (named : network.GoesBy config.network) (params : ChainParameters)
    (resolved : config.chainParameters = .ok params) (hash : BlockHash) :
    params.passesCheckpoint 0 hash = true ↔ hash = genesisOf network := by
  obtain ⟨_, agrees, members⟩ := (config.resolved_merge network named params).mp resolved
  have builtIn : (0, genesisOf network) ∈ (ofNetwork network).checkpoints.entries ++ config.checkpoints.entries := by
    rw [ChainParameters.built_in_checkpoints]
    exact List.mem_cons_self
  rw [((ofNetwork network).with_checkpoints_bound config.checkpoints.entries params members 0).2 hash]
  constructor
  · intro bound
    exact (bound (genesisOf network) builtIn).symm
  · rintro rfl bound member
    exact (config.built_in_consistent_iff network).mpr agrees 0 bound (genesisOf network) member builtIn

theorem resolved_parameters_exact :
    ((∃ params, config.chainParameters = .ok params) ↔
      ∃ network : Network, network.GoesBy config.network ∧
        (config.checkpoints.get? 0 = none ∨ config.checkpoints.get? 0 = some (genesisOf network))) ∧
    (∀ network other : Network, network.GoesBy config.network → other.GoesBy config.network → network = other) ∧
    (∀ network : Network, network.GoesBy config.network → ∀ params, config.chainParameters = .ok params →
      params = { ofNetwork network with checkpoints := params.checkpoints } ∧
      (∀ entry, entry ∈ params.checkpoints.entries ↔
        entry ∈ config.checkpoints.entries ∨ entry = (0, genesisOf network)) ∧
      ∀ hash, params.passesCheckpoint 0 hash = true ↔ hash = genesisOf network) ∧
    ((∀ network : Network, ¬ network.GoesBy config.network) →
      config.chainParameters = .error (.unknownNetwork config.network)) ∧
    ∀ network : Network, network.GoesBy config.network → ∀ hash, config.checkpoints.get? 0 = some hash →
      hash ≠ genesisOf network →
        ∃ error, config.chainParameters = .error error ∧
          error = .config (.checkpointConflict ⟨0, genesisOf network, hash⟩) ∧
          error.message = "Configuration error: " ++ ("checkpoint at height " ++ toString (0 : Nat) ++ " conflicts: " ++
            (genesisOf network).display ++ " vs " ++ hash.display) := by
  refine ⟨⟨?_, ?_⟩, Network.goes_by_unique config.network, fun network named params resolved => ?_,
    config.chain_parameters_unknown, fun network named hash held different => ?_⟩
  · rintro ⟨params, resolved⟩
    by_cases known : ∃ network : Network, network.GoesBy config.network
    · obtain ⟨network, named⟩ := known
      exact ⟨network, named, (config.resolves_iff network named).mp ⟨params, resolved⟩⟩
    · rw [config.chain_parameters_unknown (not_exists.mp known)] at resolved
      cases resolved
  · rintro ⟨network, named, agrees⟩
    exact (config.resolves_iff network named).mpr agrees
  · obtain ⟨same, _, members⟩ := (config.resolved_merge network named params).mp resolved
    refine ⟨same, fun entry => ?_, config.genesis_cannot_be_displaced network named params resolved⟩
    rw [members, ChainParameters.built_in_checkpoints, List.mem_append, List.mem_singleton, or_comm]
  · exact ⟨_, config.chain_parameters_conflict network named hash held different, rfl, rfl⟩

example : (ConsensusConfig.mk "test" .empty).chainParameters = .ok ChainParameters.testnet := by decide +kernel

end ConsensusConfig

end ChainRules
