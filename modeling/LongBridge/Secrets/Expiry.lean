import LongBridge.Python.Conversions
import LongBridge.Schedule.Cron

namespace LongBridge.Secrets
open Schedule (splitMarks)

def base64Value (char : Char) : Option ℕ :=
  if char.isUpper then some (char.toNat - 'A'.toNat)
  else if char.isLower then some (char.toNat - 'a'.toNat + 26)
  else if char.isDigit then some (char.toNat - '0'.toNat + 52)
  else if char = '+' then some 62
  else if char = '/' then some 63
  else none

-- `binascii.a2b_base64`, which is not strict: what is outside of the alphabet is skipped, a pad too where it
-- ends no group. `place` counts the characters of the group, `left` are the bits that fill no byte yet.
def a2bBase64 : List Char → ℕ → ℕ → ℕ → Except PyExc (List UInt8)
  | [],0,_,_ => .ok []
  | [],_,_,_ => .error ⟨"Error","Incorrect padding"⟩
  | char :: rest,place,left,pads =>
    if char = '=' then
      if 2 ≤ place ∧ 4 ≤ place + (pads + 1) then .ok []
      else a2bBase64 rest place left (if 2 ≤ place then pads + 1 else pads)
    else match base64Value char with
      | none => a2bBase64 rest place left pads
      | some value => match place with
        | 0 => a2bBase64 rest 1 value 0
        | 1 => (a2bBase64 rest 2 (value % 16) 0).map (UInt8.ofNat (left * 4 + value / 16) :: ·)
        | 2 => (a2bBase64 rest 3 (value % 4) 0).map (UInt8.ofNat (left * 16 + value / 4) :: ·)
        | _ => (a2bBase64 rest 0 0 0).map (UInt8.ofNat (left * 64 + value) :: ·)

def urlsafeChar : Char → Char
  | '-' => '+'
  | '_' => '/'
  | char => char

-- `base64.urlsafe_b64decode`
def urlsafeB64Decode (text : List Char) : Except PyExc (List UInt8) :=
  if text.all (·.toNat < 128) then a2bBase64 (text.map urlsafeChar) 0 0 0
  else .error ⟨"ValueError","string argument should contain only ASCII characters"⟩

def padBase64 (text : List Char) : List Char := text ++ List.replicate ((4 - text.length % 4) % 4) '='

-- `payload.get("exp")` as a float; whatever fails on the way is no expiry.
def statedExpiry : PyVal → Option PyFloat
  | .dict payload => match payload.lookup "exp" with
    | none => none
    | some expiry => expiry.toFloat
  | _ => none

-- `decode_token_expiry_unix`, with what decodes the bytes and reads them as json
def decodeTokenExpiryUnix (loads : List UInt8 → Except PyExc PyVal) (token : String) : Option PyFloat :=
  match splitMarks '.' token.toList with
  | _ :: payload :: _ => match urlsafeB64Decode (padBase64 payload) >>= loads with
    | .ok payload => statedExpiry payload
    | .error _ => none
  | _ => none

example : urlsafeB64Decode (padBase64 "eyJleHAiOjF9".toList) = .ok "\x7b\"exp\":1\x7d".toUTF8.toList := by decide +kernel

-- `days_until_expiry`
def daysUntilExpiry (expiry : PyFloat) (now : ℚ) : PyFloat :=
  match expiry with
  | .finite value => .finite ((value - now) / 86400)
  | special => special

-- `number < limit` and `number <= limit`: nothing holds of NaN.
def floatBelow : PyFloat → PyFloat → Bool
  | .finite number,.finite limit => number < limit
  | .finite _,.inf negative => !negative
  | .inf negative,.finite _ => negative
  | .inf negative,.inf limit => negative && !limit
  | _,_ => false

def floatAtMost (number : PyFloat) (limit : ℚ) : Bool :=
  match number with
  | .finite value => value ≤ limit
  | .inf negative => negative
  | .nan => false

-- A token with a decodable expiry at or before the clock
def KnownExpired (loads : List UInt8 → Except PyExc PyVal) (token : String) (now : ℚ) : Prop :=
  ∃ expiry, decodeTokenExpiryUnix loads token = some expiry ∧ floatAtMost expiry now = true

-- No day remains exactly from the expiry on.
theorem daysUntilExpiry_atMost (expiry : PyFloat) (now : ℚ) :
    floatAtMost (daysUntilExpiry expiry now) 0 = floatAtMost expiry now := by
  cases expiry with
  | finite value =>
    have scaled : (value - now) / 86400 ≤ 0 ↔ value ≤ now := by
      rw [div_le_iff₀ (by norm_num),zero_mul,sub_nonpos]
    simp only [daysUntilExpiry,floatAtMost,scaled]
  | inf negative => rfl
  | nan => rfl

end LongBridge.Secrets
