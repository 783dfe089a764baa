set_option autoImplicit false

namespace ChainRules.Text

def utf8 (text : String) : List UInt8 :=
  text.toList.flatMap String.utf8EncodeChar

end ChainRules.Text
