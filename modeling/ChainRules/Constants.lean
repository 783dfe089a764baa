set_option autoImplicit false

namespace ChainRules.Constants

def targetSpacing : Int64 := 150

def targetTimespan : Int64 := 24 * 60 * 60

def interval : UInt32 := 576

def powAveragingWindow : UInt32 := 17

def averagingWindowTimespan : Int64 := 2550

def medianTimeSpan : Nat := 11

def bip16EnforceTime : Int64 := 1333238400

def blockVersionGenesis : Int32 := 1

def blockVersionBip34 : Int32 := 2

def blockVersionBip65 : Int32 := 4

def coin : Int64 := 100000000

def maxCoins : Int64 := 1000000000

def maxMoney : Int64 := maxCoins * coin

end ChainRules.Constants
