/-
  Spark.Platform.NSData

  The base-64 methods of `NSData`, without options for the encoder and with
  `NSDataBase64DecodingIgnoreUnknownCharacters` for the decoder.
-/

import Spark.Lib.Base64
import Spark.Platform.Foundation

namespace Spark

open Spark.Lib

def base64Symbol (d : Nat) : Char :=
  if d < 26 then Char.ofNat (65 + d)
  else if d < 52 then Char.ofNat (97 + (d - 26))
  else if d < 62 then Char.ofNat (48 + (d - 52))
  else if d = 62 then '+'
  else '/'

def base64Value (c : Char) : Option Nat :=
  if 'A' ≤ c ∧ c ≤ 'Z' then some (c.toNat - 65)
  else if 'a' ≤ c ∧ c ≤ 'z' then some (c.toNat - 97 + 26)
  else if '0' ≤ c ∧ c ≤ '9' then some (c.toNat - 48 + 52)
  else if c = '+' then some 62
  else if c = '/' then some 63
  else none

/-- The standard alphabet. -/
def base64 : Base64 Char where
  symbol := base64Symbol
  value := base64Value
  pad := '='
  value_symbol := by decide
  value_pad := by decide

/-- `base64EncodedStringWithOptions:`. -/
def base64EncodedString (data : Data) : String := String.ofList (base64.encode data)

/-- `initWithBase64EncodedString:options:`; `none` for `nil`. -/
def initWithBase64EncodedString (base64String : String) : Option Data :=
  base64.decode (base64String.toList.filter fun c => c = '=' ∨ (base64Value c).isSome)

/-- What has been encoded is decoded: the encoder uses no unknown characters. -/
theorem initWithBase64EncodedString_base64EncodedString (data : Data) :
    initWithBase64EncodedString (base64EncodedString data) = some data := by
  have hknown : (base64.encode data).filter (fun c => c = '=' ∨ (base64Value c).isSome) =
      base64.encode data := by
    refine List.filter_eq_self.mpr ?_
    intro c hc
    rcases Base64.mem_encode hc with rfl | ⟨d, hd, rfl⟩
    · rfl
    · have hvalue : base64Value (base64.symbol d) = some d := base64.value_symbol d hd
      simp [hvalue]
  rw [initWithBase64EncodedString, base64EncodedString, String.toList_ofList, hknown]
  exact Base64.decode_encode data

end Spark
