/-!
# Machine words

The whole numbers that fit into 64 bits, with a sign or without.
-/

namespace RdfMapping

/-- Two to the power of 64; words without a sign lie below it. -/
def wordEnd : Nat := 18446744073709551616

/-- Two to the power of 63; words with a sign lie below it and down to its negative. -/
def signedWordEnd : Nat := 9223372036854775808

def isWord (n : Int) : Bool := 0 ≤ n && n < wordEnd

def isSignedWord (n : Int) : Bool := -signedWordEnd ≤ n && n < signedWordEnd

end RdfMapping
