import ChainRules.Error

set_option autoImplicit false

namespace ChainRules

def Target.parse (text : String) : Except ConsensusError Target :=
  (Target.ofHex text).mapError (fun fault => .config (.badTarget text fault))

end ChainRules
