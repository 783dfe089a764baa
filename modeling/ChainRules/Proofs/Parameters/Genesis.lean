import ChainRules.Parameters.Presets
import ChainRules.Proofs.Block.Serialization
import Mathlib

set_option autoImplicit false

namespace ChainRules

def HeaderHasher.ofDigest (digest : List UInt8 → BlockHash) : HeaderHasher := fun header => digest header.serialize

namespace GenesisDescriptor

structure Agree (a b : GenesisDescriptor) : Prop where
  version : a.version = b.version
  merkleRoot : a.merkleRoot = b.merkleRoot
  bits : a.bits = b.bits
  nonce : a.nonce = b.nonce
  timestamp : a.timestamp.toInt ≡ b.timestamp.toInt [ZMOD 2 ^ 32]

theorem agree_of_serialize {a b : GenesisDescriptor} (same : a.unhashed.serialize = b.unhashed.serialize) :
    a.Agree b := by
  obtain ⟨version, _, merkleRoot, bits, nonce, timestamp⟩ := (BlockHeader.serialize_eq_iff _ _).mp same
  exact ⟨version, merkleRoot, bits, nonce, timestamp⟩

end GenesisDescriptor

namespace ChainParameters

theorem genesis_block_eq_ok_iff (params : ChainParameters) (hasher : HeaderHasher) (header : BlockHeader) :
    params.genesisBlock hasher = .ok header ↔
      hasher params.genesis.unhashed = params.genesis.hash ∧ header = params.genesis.header hasher := by
  have derived : (params.genesis.header hasher).hash = hasher params.genesis.unhashed := rfl
  rw [genesisBlock, genesisHash, derived]
  by_cases verified : hasher params.genesis.unhashed = params.genesis.hash
  · rw [if_pos verified, Except.ok.injEq, eq_comm]
    exact (and_iff_right verified).symm
  · rw [if_neg verified]
    exact iff_of_false (by simp) (fun both => verified both.1)

theorem genesis_block_mismatch (params : ChainParameters) (hasher : HeaderHasher)
    (differs : hasher params.genesis.unhashed ≠ params.genesis.hash) :
    params.genesisBlock hasher =
      .error (.genesisMismatch params.network params.genesis.hash (hasher params.genesis.unhashed)) :=
  if_neg differs

-- Hashes are shorter than headers, so no digest keeps all messages apart. The set is of those among which it does.
theorem verified_genesis_agree (digest : List UInt8 → BlockHash) (messages : Set (List UInt8))
    (injective : Set.InjOn digest messages) (params other : ChainParameters)
    (among : params.genesis.unhashed.serialize ∈ messages) (otherAmong : other.genesis.unhashed.serialize ∈ messages)
    (samePublished : params.genesis.hash = other.genesis.hash)
    (verified : ∃ header, params.genesisBlock (.ofDigest digest) = .ok header)
    (otherVerified : ∃ header, other.genesisBlock (.ofDigest digest) = .ok header) :
    params.genesis.Agree other.genesis := by
  obtain ⟨_, found⟩ := verified
  obtain ⟨_, otherFound⟩ := otherVerified
  have hashed : digest params.genesis.unhashed.serialize = params.genesis.hash :=
    ((params.genesis_block_eq_ok_iff _ _).mp found).1
  have otherHashed : digest other.genesis.unhashed.serialize = other.genesis.hash :=
    ((other.genesis_block_eq_ok_iff _ _).mp otherFound).1
  exact GenesisDescriptor.agree_of_serialize
    (injective among otherAmong (hashed.trans (samePublished.trans otherHashed.symm)))

theorem verified_genesis_commits :
    (∀ a b : BlockHeader, a.serialize = b.serialize ↔
      a.version = b.version ∧ a.previous = b.previous ∧ a.merkleRoot = b.merkleRoot ∧ a.bits = b.bits ∧
        a.nonce = b.nonce ∧ a.timestamp.toInt ≡ b.timestamp.toInt [ZMOD 2 ^ 32]) ∧
    (∀ header : BlockHeader, header.serialize.length = 108) ∧
    (∀ (digest : List UInt8 → BlockHash) (messages : Set (List UInt8)), Set.InjOn digest messages →
      ∀ params other : ChainParameters, params.genesis.unhashed.serialize ∈ messages →
        other.genesis.unhashed.serialize ∈ messages → params.genesis.hash = other.genesis.hash →
        (∃ header, params.genesisBlock (.ofDigest digest) = .ok header) →
        (∃ header, other.genesisBlock (.ofDigest digest) = .ok header) → params.genesis.Agree other.genesis) ∧
    ∀ (params : ChainParameters) (hasher : HeaderHasher) (unhashed : BlockHeader),
      unhashed = ⟨params.genesis.version, .zero, params.genesis.merkleRoot, params.genesis.timestamp,
        params.genesis.bits, params.genesis.nonce, .zero⟩ →
      (∀ header, params.genesisBlock hasher = .ok header ↔
        hasher unhashed = params.genesis.hash ∧ header = { unhashed with hash := params.genesis.hash }) ∧
      (hasher unhashed ≠ params.genesis.hash → params.genesisBlock hasher =
        .error (.genesisMismatch params.network params.genesis.hash (hasher unhashed))) := by
  refine ⟨BlockHeader.serialize_eq_iff, BlockHeader.length_serialize, verified_genesis_agree, ?_⟩
  rintro params hasher _ rfl
  refine ⟨fun header => ?_, params.genesis_block_mismatch hasher⟩
  rw [genesis_block_eq_ok_iff]
  refine and_congr_right (fun verified => ?_)
  rw [← verified]
  rfl

def alteredRegtest : ChainParameters := { regtest with genesis := { regtestGenesis with nonce := .zero } }

def regtestDigest (message : List UInt8) : BlockHash :=
  if message = regtestGenesis.unhashed.serialize then regtestGenesis.hash else .zero

theorem verified_genesis_commits_regtest :
    ∃ messages, Set.InjOn regtestDigest messages ∧ regtest.genesis.unhashed.serialize ∈ messages ∧
      alteredRegtest.genesis.unhashed.serialize ∈ messages ∧
      (∃ header, regtest.genesisBlock (.ofDigest regtestDigest) = .ok header) ∧
      ¬ ∃ header, alteredRegtest.genesisBlock (.ofDigest regtestDigest) = .ok header := by
  have apart : regtestDigest regtest.genesis.unhashed.serialize ≠
      regtestDigest alteredRegtest.genesis.unhashed.serialize := by
    decide +kernel
  have injective : Set.InjOn regtestDigest
      {regtest.genesis.unhashed.serialize, alteredRegtest.genesis.unhashed.serialize} :=
    Set.injOn_pair.mpr (fun same => absurd same apart)
  have published : regtestDigest regtest.genesis.unhashed.serialize = regtest.genesis.hash := if_pos rfl
  have verified : ∃ header, regtest.genesisBlock (.ofDigest regtestDigest) = .ok header :=
    ⟨_, (regtest.genesis_block_eq_ok_iff _ _).mpr ⟨published, rfl⟩⟩
  obtain ⟨_, _, commits, _⟩ := verified_genesis_commits
  refine ⟨_, injective, by simp, by simp, verified, fun altered => ?_⟩
  have agree := commits regtestDigest _ injective regtest alteredRegtest (by simp) (by simp) rfl verified altered
  exact absurd agree.nonce (by decide +kernel)

end ChainParameters

end ChainRules
