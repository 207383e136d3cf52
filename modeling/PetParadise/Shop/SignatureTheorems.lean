/-
PetParadise.Shop.SignatureTheorems — what the signature of a MoMo request
covers.

`text_to_sha` joins ten fields with `&` and `=` and escapes none of them.
One field may contain both characters: the email. It does no harm, because
it is the LAST field that is not known once the others are: what stands in
front of it is free of `&`, and what follows it is determined by the order
id, which has been read by then. So the text is taken apart from the left,
one field at a time (`field_inj`), and the email is what remains between
two known pieces.

That `extraData` is free of `&` is a fact about `Base64.encode64`;
`Base64.encode64` below is that function, for the witness.
-/
import PetParadise.Shop.Momo
import PetParadise.Store.Lists

namespace PetParadise

open Store

/-! ## Alphabets -/

/-- A character of `SecureRandom.hex`. -/
def isHexChar (c : Char) : Bool := c.isDigit || ('a' ≤ c && c ≤ 'f')

/-- A character of `Base64.encode64`: its alphabet, `=` and newlines. -/
def isBase64Char (c : Char) : Bool := c.isAlphanum || c == '+' || c == '/' || c == '=' || c == '\n'

theorem not_mem_of_all {p : Char → Bool} {c : Char} {s : String} (h : s.toList.all p = true)
    (hc : p c = false) : c ∉ s.toList := by
  intro hmem
  rw [List.all_eq_true.mp h c hmem] at hc
  cases hc

/-- The text of a number is free of everything but digits and a sign. -/
theorem not_mem_toString_nat {c : Char} (hc : c.isDigit = false) (n : Nat) :
    c ∉ (toString n).toList := by
  intro hmem
  have hdigits : (toString n).toList = Nat.toDigits 10 n := by
    change n.repr.toList = _
    rw [Nat.repr_eq_ofList_toDigits, String.toList_ofList]
  rw [hdigits] at hmem
  rw [isDigit_toDigits n c hmem] at hc
  cases hc

theorem not_mem_toString_int {c : Char} (hc : c.isDigit = false) (hsign : c ≠ '-') (n : Int) :
    c ∉ (toString n).toList := by
  cases n with
  | ofNat n => exact not_mem_toString_nat hc n
  | negSucc n =>
    change c ∉ ("-" ++ toString (n + 1)).toList
    rw [String.toList_append, List.mem_append, not_or]
    exact ⟨by simpa using hsign, not_mem_toString_nat hc (n + 1)⟩

theorem toString_int_inj {m n : Int} (h : toString m = toString n) : m = n := by
  rw [← toI_toString m, h, toI_toString]

theorem toString_nat_inj {m n : Nat} (h : toString m = toString n) : m = n :=
  Int.ofNat.inj (toString_int_inj (m := m) (n := n) h)

/-- A field is read off a text if the character that begins the separator
is not in it. -/
theorem text_field_inj {c : Char} {cs : List Char} {sep a a' b b' : String}
    (hsep : sep.toList = c :: cs) (ha : c ∉ a.toList) (ha' : c ∉ a'.toList)
    (h : a ++ (sep ++ b) = a' ++ (sep ++ b')) : a = a' ∧ b = b' := by
  have hlist := congrArg String.toList h
  simp only [String.toList_append, hsep, List.cons_append] at hlist
  obtain ⟨hfield, hrest⟩ := field_inj ha ha' hlist
  exact ⟨String.toList_injective hfield,
    String.toList_injective (List.append_cancel_left hrest)⟩

namespace Momo.GetPaymentUrlService

/-! ## The signed text -/

/-- The fields of a request in the order in which they are signed. -/
def signedText (r : MomoRequest) : String :=
  "accessKey=7tYPQ3NQMFtdtTdE&amount=" ++ toString r.amount ++ "&extraData=" ++ r.extraData ++
  "&ipnUrl=" ++ r.ipnUrl ++ "&orderId=" ++ r.orderId ++ "&orderInfo=" ++ r.orderInfo ++
  "&partnerCode=" ++ r.partnerCode ++ "&redirectUrl=" ++ r.redirectUrl ++
  "&requestId=" ++ r.requestId ++ "&requestType=" ++ r.requestType

/-- An order id names the user and the token. -/
theorem orderId_inj {u u' : User} {token token' : String}
    (h : orderId u token = orderId u' token') : u.id = u'.id ∧ token = token' := by
  simp only [orderId, String.append_assoc, String.append_right_inj] at h
  obtain ⟨hid, htoken⟩ := text_field_inj (c := '_') rfl (not_mem_toString_nat (by decide) u.id)
    (not_mem_toString_nat (by decide) u'.id) h
  exact ⟨toString_nat_inj hid, htoken⟩

theorem not_mem_orderId {c : Char} (hc : c.isDigit = false)
    (hmark : c ∉ "MM2023_".toList) {u : User} {token : String} (htoken : c ∉ token.toList) :
    c ∉ (orderId u token).toList := by
  have hsep : c ∉ "_".toList := fun h => hmark (by revert h; simp; tauto)
  simp only [orderId, String.toList_append, List.mem_append, not_or]
  exact ⟨⟨⟨hmark, not_mem_toString_nat hc u.id⟩, hsep⟩, htoken⟩

variable [Env]

/-- The text, bracketed to the right. -/
theorem textToSha_eq (u : User) (amount : Int) (token : String) :
    textToSha u amount token =
      "accessKey=7tYPQ3NQMFtdtTdE&amount=" ++ (toString amount ++ ("&extraData=" ++
        (extraData u token ++ ("&ipnUrl=" ++ (ipnUrl ++ ("&orderId=" ++ (orderId u token ++
        ("&orderInfo=" ++ (u.email ++ ("&partnerCode=MOMOVEIT20200928&redirectUrl=" ++
        (redirectUrl ++ ("&requestId=" ++ (requestId u token ++
        "&requestType=captureWallet"))))))))))))) := by
  simp only [← String.append_assoc]
  rfl

/-- What is signed is what is sent. -/
theorem textToSha_eq_signedText (u : User) (amount : Int) (token : String)
    (items : List MomoItem) :
    textToSha u amount token = signedText (dataBody u amount token items) := by
  have hpartner : "&partnerCode=MOMOVEIT20200928&redirectUrl=" =
      "&partnerCode=" ++ "MOMOVEIT20200928" ++ "&redirectUrl=" := by decide
  have htype : "&requestType=captureWallet" = "&requestType=" ++ "captureWallet" := by decide
  rw [textToSha_eq, hpartner, htype]
  delta signedText
  simp only [dataBody, String.append_assoc]

/-- **The signed text determines the payment.** Two requests with hex tokens
whose signed texts are equal have the same amount, order id, request id,
extra data and order info, whatever characters the emails have; and every
request is signed with the values it sends. -/
theorem signed_text_determines_payment
    (hencode : ∀ s, (Env.encode64 s).toList.all isBase64Char = true)
    (u u' : User) (amount amount' : Int) (token token' : String) (items items' : List MomoItem)
    (htoken : token.toList.all isHexChar = true) (htoken' : token'.toList.all isHexChar = true)
    (h : textToSha u amount token = textToSha u' amount' token') :
    ((dataBody u amount token items).amount = (dataBody u' amount' token' items').amount ∧
      (dataBody u amount token items).orderId = (dataBody u' amount' token' items').orderId ∧
      (dataBody u amount token items).requestId = (dataBody u' amount' token' items').requestId ∧
      (dataBody u amount token items).extraData = (dataBody u' amount' token' items').extraData ∧
      (dataBody u amount token items).orderInfo = (dataBody u' amount' token' items').orderInfo) ∧
    textToSha u amount token = signedText (dataBody u amount token items) := by
  refine ⟨?_, textToSha_eq_signedText u amount token items⟩
  have hand : ∀ {token : String}, token.toList.all isHexChar = true → '&' ∉ token.toList :=
    fun ht => not_mem_of_all ht (by decide)
  have hextra : ∀ v t, '&' ∉ (extraData v t).toList := fun v t =>
    not_mem_of_all (hencode _) (by decide)
  -- field after field from the left, up to the order id
  rw [textToSha_eq, textToSha_eq, String.append_right_inj] at h
  obtain ⟨hamount, h⟩ := text_field_inj (c := '&') rfl
    (not_mem_toString_int (by decide) (by decide) amount)
    (not_mem_toString_int (by decide) (by decide) amount') h
  obtain ⟨-, h⟩ := text_field_inj (c := '&') rfl (hextra u token) (hextra u' token') h
  rw [String.append_right_inj, String.append_right_inj] at h
  obtain ⟨horder, h⟩ := text_field_inj (c := '&') rfl
    (not_mem_orderId (by decide) (by decide) (hand htoken))
    (not_mem_orderId (by decide) (by decide) (hand htoken')) h
  -- which says what follows the email, so only the email is left
  obtain ⟨hid, rfl⟩ := orderId_inj horder
  have hrequest : requestId u token = requestId u' token := by rw [requestId, requestId, hid]
  have hextra : extraData u token = extraData u' token := by rw [extraData, extraData, horder]
  rw [hrequest, String.append_left_inj] at h
  exact ⟨toString_int_inj hamount, horder, hrequest, hextra, h⟩

end Momo.GetPaymentUrlService

/-! ## `Base64.encode64` -/

namespace Base64

def alphabet : List Char :=
  "ABCDEFGHIJKLMNOPQRSTUVWXYZabcdefghijklmnopqrstuvwxyz0123456789+/".toList

def digit (n : Nat) : Char := (alphabet[n]?).getD '='

/-- Three bytes are four digits; the last group is filled up with `=`. -/
def encode : List Nat → List Char
  | a :: b :: c :: rest =>
      digit (a / 4) :: digit (a % 4 * 16 + b / 16) :: digit (b % 16 * 4 + c / 64) ::
        digit (c % 64) :: encode rest
  | [a, b] => [digit (a / 4), digit (a % 4 * 16 + b / 16), digit (b % 16 * 4), '=']
  | [a] => [digit (a / 4), digit (a % 4 * 16), '=', '=']
  | [] => []

/-- A newline after every 60 characters and at the end; `k` are on the
line so far. -/
def wrap (k : Nat) : List Char → List Char
  | [] => if k = 0 then [] else ['\n']
  | c :: cs => if k = 59 then c :: '\n' :: wrap 0 cs else c :: wrap (k + 1) cs

def encode64 (s : String) : String :=
  String.ofList (wrap 0 (encode ((s.toList.flatMap String.utf8EncodeChar).map UInt8.toNat)))

theorem isBase64Char_digit (n : Nat) : isBase64Char (digit n) = true := by
  have halphabet : alphabet.all isBase64Char = true := by decide
  unfold digit
  cases h : alphabet[n]? with
  | none => rfl
  | some c => exact List.all_eq_true.mp halphabet c (List.mem_of_getElem? h)

theorem all_encode (bytes : List Nat) : (encode bytes).all isBase64Char = true := by
  have hfill : isBase64Char '=' = true := by decide
  fun_induction encode bytes with
  | case1 a b c rest ih => simp [isBase64Char_digit, ih]
  | case2 a b => simp [isBase64Char_digit, hfill]
  | case3 a => simp [isBase64Char_digit, hfill]
  | case4 => rfl

theorem all_wrap {cs : List Char} (h : cs.all isBase64Char = true) (k : Nat) :
    (wrap k cs).all isBase64Char = true := by
  have hbreak : isBase64Char '\n' = true := by decide
  induction cs generalizing k with
  | nil =>
    unfold wrap
    split <;> rfl
  | cons c cs ih =>
    rw [List.all_cons, Bool.and_eq_true] at h
    unfold wrap
    split
    · simp [h.1, ih h.2, hbreak]
    · simp [h.1, ih h.2]

theorem all_encode64 (s : String) : (encode64 s).toList.all isBase64Char = true := by
  rw [encode64, String.toList_ofList]
  exact all_wrap (all_encode _) 0

example : encode64 "light w" = "bGlnaHQgdw==\n" := by decide

end Base64

/-- A deployment with the library's `encode64`. -/
@[reducible] def Env.withBase64 : Env := { Env.caseInsensitive with encode64 := Base64.encode64 }

open Momo.GetPaymentUrlService in
/-- An email with both separators in it, before and after its owner has
entered a name. -/
theorem signed_text_determines_payment_ampersand :
    @textToSha .withBase64 { id := 7, email := "a&orderId=b@pet.vn" } 120 "0af3" =
      @textToSha .withBase64
        { id := 7, email := "a&orderId=b@pet.vn", firstName := some "Ann" } 120 "0af3" ∧
    (@dataBody .withBase64 { id := 7, email := "a&orderId=b@pet.vn" } 120 "0af3" []).orderInfo =
      (@dataBody .withBase64 { id := 7, email := "a&orderId=b@pet.vn", firstName := some "Ann" }
        120 "0af3" []).orderInfo := by
  have htext : @textToSha .withBase64 { id := 7, email := "a&orderId=b@pet.vn" } 120 "0af3" =
      @textToSha .withBase64 { id := 7, email := "a&orderId=b@pet.vn", firstName := some "Ann" }
        120 "0af3" := rfl
  obtain ⟨⟨-, -, -, -, hinfo⟩, -⟩ := @signed_text_determines_payment .withBase64
    Base64.all_encode64 _ _ 120 120 "0af3" "0af3" [] [] (by decide) (by decide) htext
  exact ⟨htext, hinfo⟩

end PetParadise
