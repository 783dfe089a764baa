import ChainRules.Block.Stored
import ChainRules.Block.Transaction
import ChainRules.Json.Form

set_option autoImplicit false

namespace ChainRules.JsonForm

instance : JsonForm BlockHash where
  toJson hash := Json.string hash.display
  ofJson? json := (json.as? String).bind BlockHash.parse?

instance : JsonForm Target where
  toJson target := Json.string target.display
  ofJson? json := (json.as? String).bind (fun text => (Target.ofHex text).toOption)

instance : JsonForm CompactBits where
  toJson bits := toJson bits.value
  ofJson? json := (json.as? UInt32).map CompactBits.mk

instance : JsonForm BlockHeader where
  toJson header := Json.record [
    ("version", toJson header.version),
    ("prev_block_hash", toJson header.previous),
    ("merkle_root", toJson header.merkleRoot),
    ("timestamp", toJson header.timestamp),
    ("bits", toJson header.bits),
    ("nonce", toJson header.nonce),
    ("hash", toJson header.hash)]
  ofJson? json :=
    match json.fields? ["version", "prev_block_hash", "merkle_root", "timestamp", "bits", "nonce", "hash"] with
    | some [version, previous, merkleRoot, timestamp, bits, nonce, hash] => do
        let version ← version.as? Int32
        let previous ← previous.as? BlockHash
        let merkleRoot ← merkleRoot.as? BlockHash
        let timestamp ← timestamp.as? Int64
        let bits ← bits.as? CompactBits
        let nonce ← nonce.as? Bytes32
        let hash ← hash.as? BlockHash
        return ⟨version, previous, merkleRoot, timestamp, bits, nonce, hash⟩
    | _ => none

instance : JsonForm StoredBlock where
  toJson block := Json.record [("header", toJson block.header), ("height", toJson block.height)]
  ofJson? json :=
    match json.fields? ["header", "height"] with
    | some [header, height] => do
        let header ← header.as? BlockHeader
        let height ← height.as? UInt32
        return ⟨header, height⟩
    | _ => none

instance : JsonForm OutPoint where
  toJson point := Json.record [("hash", toJson point.hash), ("index", toJson point.index)]
  ofJson? json :=
    match json.fields? ["hash", "index"] with
    | some [hash, index] => do
        let hash ← hash.as? Bytes32
        let index ← index.as? UInt32
        return ⟨hash, index⟩
    | _ => none

instance : JsonForm TransactionInput where
  toJson input := Json.record [
    ("prevout", toJson input.previousOutput),
    ("script_sig", toJson input.scriptSig),
    ("sequence", toJson input.sequence)]
  ofJson? json :=
    match json.fields? ["prevout", "script_sig", "sequence"] with
    | some [previousOutput, scriptSig, sequence] => do
        let previousOutput ← previousOutput.as? OutPoint
        let scriptSig ← scriptSig.as? (List UInt8)
        let sequence ← sequence.as? UInt32
        return ⟨previousOutput, scriptSig, sequence⟩
    | _ => none

instance : JsonForm TransactionOutput where
  toJson output := Json.record [("value", toJson output.value), ("script_pubkey", toJson output.scriptPubkey)]
  ofJson? json :=
    match json.fields? ["value", "script_pubkey"] with
    | some [value, scriptPubkey] => do
        let value ← value.as? Int64
        let scriptPubkey ← scriptPubkey.as? (List UInt8)
        return ⟨value, scriptPubkey⟩
    | _ => none

instance : JsonForm Transaction where
  toJson transaction := Json.record [
    ("version", toJson transaction.version),
    ("inputs", toJson transaction.inputs),
    ("outputs", toJson transaction.outputs),
    ("lock_time", toJson transaction.lockTime)]
  ofJson? json :=
    match json.fields? ["version", "inputs", "outputs", "lock_time"] with
    | some [version, inputs, outputs, lockTime] => do
        let version ← version.as? Int32
        let inputs ← inputs.as? (List TransactionInput)
        let outputs ← outputs.as? (List TransactionOutput)
        let lockTime ← lockTime.as? UInt32
        return ⟨version, inputs, outputs, lockTime⟩
    | _ => none

end ChainRules.JsonForm
