/-!
# Provider codes

Some parameters are written in friendly words but sent to the provider as codes:

* a NAT gateway size (`micro`, `small`, `medium`, `large`, `extra-large`, in any letter
  case, or the digits `0` to `4`) becomes its digit; any other text is sent unchanged;
* an elastic IP type `BGP` becomes `5_bgp`, any other `5_mailbgp`;
* a bandwidth share type `Shared` becomes `WHOLE`, any other `PER`.
-/

namespace NetReconcile.Codes

/-- Lowercase of a character, as far as it can matter for matching ASCII words: ASCII
capitals become small letters, the Kelvin sign becomes `k`, and the capital I with dot
becomes `i` followed by a combining dot. Every other character lowercases to a
character outside ASCII or to itself, so it can never complete an ASCII word and is kept. -/
def lowerForWords (c : Char) : List Char :=
  if 'A' ≤ c ∧ c ≤ 'Z' then [c.toLower]
  else if c = '\u212A' then ['k']
  else if c = '\u0130' then ['i', '\u0307']
  else [c]

/-- The lowercase form of a text for matching ASCII words. -/
def lowered (s : String) : String := String.ofList (s.toList.flatMap lowerForWords)

/-- NAT gateway sizes: the words and digits that name each code. -/
def sizeCodes : List (List String × String) :=
  [(["micro", "0"], "0"), (["small", "1"], "1"), (["medium", "2"], "2"),
   (["large", "3"], "3"), (["extra-large", "4"], "4")]

/-- The code of a NAT gateway size; a text naming no size is kept as it is. -/
def sizeCode (spec : String) : String :=
  let l := lowered spec
  match sizeCodes.find? (·.1.contains l) with
  | some (_, code) => code
  | none => spec

/-- The code of an elastic IP type. -/
def ipTypeCode (ipType : String) : String := if ipType = "BGP" then "5_bgp" else "5_mailbgp"

/-- The code of a bandwidth share type. -/
def shareTypeCode (shareType : String) : String := if shareType = "Shared" then "WHOLE" else "PER"

end NetReconcile.Codes
