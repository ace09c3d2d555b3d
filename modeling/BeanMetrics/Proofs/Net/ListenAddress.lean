import BeanMetrics.Net.ListenAddress
import BeanMetrics.Proofs.Net.Ipv6
import BeanMetrics.Proofs.Text.Split

/-!
The grammar of listen addresses. A port is decimal digits; a host is `localhost`, an IPv4 address, or an
IPv6 address in brackets. Just this is read, but for two liberties: a plus sign may stand in front of the
port, and an IPv4 address may stand in brackets. An address that is printed is read again.
-/

namespace BeanMetrics
namespace ListenAddress

/-! ### The grammar -/

structure Digits (s : List Char) (n : UInt16) : Prop where
  ne_nil : s ≠ []
  isDigit : ∀ c ∈ s, c.isDigit
  value : Nat.ofDigitChars 10 s 0 = n.toNat

def Port (s : List Char) (n : UInt16) : Prop := Digits s n ∧ n ≠ 0

inductive Host : List Char → IpAddress → Prop where
  | localhost : Host "localhost".toList (.v4 .localhost)
  | v4 (x : Ipv4) : Host x.chars (.v4 x)
  | v6 {inner : List Char} {x : Ipv6} (hx : IpAddress.ofChars? inner = some (.v6 x)) :
    Host ('[' :: (inner ++ [']'])) (.v6 x)

/-- A port, or a host, a colon and a port. A port alone means all interfaces. -/
inductive Form (host : List Char → IpAddress → Prop) (port : List Char → UInt16 → Prop) :
    List Char → SocketAddress → Prop where
  | port {s : List Char} {n : UInt16} (hn : port s n) : Form host port s ⟨.v4 .unspecified, n⟩
  | hostPort {before after : List Char} {ip : IpAddress} {n : UInt16} (hip : host before ip)
    (hn : port after n) : Form host port (before ++ ':' :: after) ⟨ip, n⟩

/-- A port that may have a plus sign in front. -/
def SignedPort (s : List Char) (n : UInt16) : Prop :=
  Port s n ∨ ∃ digits, s = '+' :: digits ∧ Port digits n

/-- A host in which an IPv4 address may have brackets, too. -/
def BracketedHost (s : List Char) (ip : IpAddress) : Prop :=
  Host s ip ∨ ∃ x : Ipv4, s = '[' :: (x.chars ++ [']']) ∧ ip = .v4 x

section

variable {host : List Char → IpAddress → Prop} {port : List Char → UInt16 → Prop} {address : SocketAddress}

theorem form_iff_of_colon_notMem {s : List Char} (hs : ':' ∉ s) :
    Form host port s address ↔ ∃ n, port s n ∧ address = ⟨.v4 .unspecified, n⟩ := by
  constructor
  · intro h
    cases h with
    | port hn => exact ⟨_, hn, rfl⟩
    | hostPort hip hn => simp at hs
  · rintro ⟨n, hn, rfl⟩
    exact .port hn

/-- The last colon stands in front of the port. -/
theorem form_hostPort_iff {before after : List Char} (hport : ∀ s n, port s n → ':' ∉ s)
    (hs : ':' ∉ after) :
    Form host port (before ++ ':' :: after) address ↔
      ∃ ip n, host before ip ∧ port after n ∧ address = ⟨ip, n⟩ := by
  constructor
  · generalize he : before ++ ':' :: after = s
    intro h
    cases h with
    | port hn =>
      subst he
      exact absurd (by simp) (hport _ _ hn)
    | hostPort hip hn =>
      have hsplit := Text.splitLast_eq_some_iff.mpr ⟨he.symm, hs⟩
      rw [Text.splitLast_eq_some_iff.mpr ⟨rfl, hport _ _ hn⟩] at hsplit
      cases hsplit
      exact ⟨_, _, hip, hn, rfl⟩
  · rintro ⟨ip, n, hip, hn, rfl⟩
    exact .hostPort hip hn

end

/-! ### Ports -/

theorem digits_iff {s : List Char} {n : UInt16} :
    Digits s n ↔ ((Text.number? 10 s).filter (· < Nat.pow 2 16)).map UInt16.ofNat = some n := by
  have hnumber : Text.isNumber 10 s ↔ s ≠ [] ∧ ∀ c ∈ s, c.isDigit := by
    simp [Text.isNumber, Text.isSome_digit?_ten]
  by_cases hs : Text.isNumber 10 s
  · obtain ⟨hne, hd⟩ := hnumber.mp hs
    have hn : n.toNat < 65536 := n.toNat_lt
    rw [Text.number?, if_pos hs, Text.digitsValue_ten hd]
    constructor
    · intro h
      simp [h.value, hn]
    · intro h
      obtain ⟨v, hv, rfl⟩ := Option.map_eq_some_iff.mp h
      obtain ⟨he, hlt⟩ := Option.filter_eq_some_iff.mp hv
      obtain rfl := Option.some.inj he
      have hlt' : Nat.ofDigitChars 10 s 0 < 65536 := by simpa using hlt
      exact ⟨hne, hd, (UInt16.toNat_ofNat_of_lt' hlt').symm⟩
  · rw [Text.number?, if_neg hs]
    constructor
    · intro h
      exact absurd (hnumber.mpr ⟨h.ne_nil, h.isDigit⟩) hs
    · simp

theorem Digits.notMem {s : List Char} {n : UInt16} (h : Digits s n) {c : Char} (hc : ¬ c.isDigit) :
    c ∉ s :=
  fun hm => hc (h.isDigit c hm)

theorem not_digits_plus (s : List Char) (n : UInt16) : ¬ Digits ('+' :: s) n := fun h =>
  h.notMem (by decide) List.mem_cons_self

theorem port?_eq_some_iff {s : List Char} {n : UInt16} :
    port? s = some n ↔ Digits s n ∨ ∃ digits, s = '+' :: digits ∧ Digits digits n := by
  unfold port?
  split
  · rename_i digits
    rw [← digits_iff]
    simp [not_digits_plus]
  · rename_i hs
    have hplus : ∀ digits, s ≠ '+' :: digits := hs
    rw [← digits_iff]
    simp [hplus]

theorem signedPort_iff {s : List Char} {n : UInt16} :
    SignedPort s n ↔ port? s = some n ∧ n ≠ 0 := by
  rw [port?_eq_some_iff]
  constructor
  · rintro (⟨h, h0⟩ | ⟨digits, rfl, h, h0⟩)
    · exact ⟨.inl h, h0⟩
    · exact ⟨.inr ⟨digits, rfl, h⟩, h0⟩
  · rintro ⟨h | ⟨digits, rfl, h⟩, h0⟩
    · exact .inl ⟨h, h0⟩
    · exact .inr ⟨digits, rfl, h, h0⟩

theorem Port.colon_notMem {s : List Char} {n : UInt16} (h : Port s n) : ':' ∉ s :=
  h.1.notMem (by decide)

theorem SignedPort.colon_notMem {s : List Char} {n : UInt16} (h : SignedPort s n) : ':' ∉ s := by
  rcases h with h | ⟨digits, rfl, h⟩
  · exact h.colon_notMem
  · simpa using h.colon_notMem

theorem digits_toDigits (n : UInt16) : Digits (Nat.toDigits 10 n.toNat) n where
  ne_nil := Nat.toDigits_ne_nil
  isDigit _ hc := Nat.isDigit_of_mem_toDigits (by decide) (by decide) hc
  value := Nat.ofDigitChars_ten_toDigits

/-! ### Hosts -/

theorem host_localhost : host "localhost".toList = .ok (.v4 .localhost) := rfl

/-- A host in brackets is an address of either kind. -/
theorem host_bracket_iff {rest : List Char} {ip : IpAddress} :
    host ('[' :: rest) = .ok ip ↔
      ∃ inner, rest = inner ++ [']'] ∧ IpAddress.ofChars? inner = some ip := by
  have hl : '[' :: rest ≠ "localhost".toList := by simp
  unfold host
  rw [if_neg (List.cons_ne_nil _ _), if_neg hl]
  cases hdrop : Text.dropEnd? [']'] rest with
  | none =>
    have hend : ∀ inner, rest ≠ inner ++ [']'] := by
      rintro inner rfl
      simp at hdrop
    simp [hdrop, hend]
  | some inner =>
    obtain rfl := Text.eq_append_of_dropEnd? hdrop
    cases hread : IpAddress.ofChars? inner <;> simp [hread]

theorem host_bare_iff {s : List Char} {ip : IpAddress} (hne : s ≠ []) (hl : s ≠ "localhost".toList)
    (hb : s.head? ≠ some '[') :
    host s = .ok ip ↔ ':' ∉ s ∧ IpAddress.ofChars? s = some ip := by
  unfold host
  rw [if_neg hne, if_neg hl]
  split
  · simp at hb
  · by_cases hc : ':' ∈ s
    · simp [hc]
    · cases hread : IpAddress.ofChars? s <;> simp [hc, hread]

theorem host_v4 (x : Ipv4) : host x.chars = .ok (.v4 x) := by
  have hdot : '.' ∈ x.chars := x.dot_mem_chars
  have hl : x.chars ≠ "localhost".toList := by
    intro hl
    rw [hl] at hdot
    exact absurd hdot (by decide)
  have hb : x.chars.head? ≠ some '[' := fun hh => by
    simpa using Ipv4.isDigit_or_dot (List.mem_of_head? hh)
  rw [host_bare_iff (List.ne_nil_of_mem hdot) hl hb]
  exact ⟨x.colon_notMem_chars, IpAddress.ofChars?_v4 x⟩

/-- Between brackets both kinds of addresses are read, without them only IPv4 addresses. -/
theorem bracketedHost_iff {s : List Char} {ip : IpAddress} : BracketedHost s ip ↔ host s = .ok ip := by
  constructor
  · rintro (h | ⟨x, rfl, rfl⟩)
    · cases h with
      | localhost => exact host_localhost
      | v4 x => exact host_v4 x
      | v6 hx => exact host_bracket_iff.mpr ⟨_, rfl, hx⟩
    · exact host_bracket_iff.mpr ⟨_, rfl, IpAddress.ofChars?_v4 x⟩
  · intro h
    by_cases hl : s = "localhost".toList
    · subst hl
      cases host_localhost.symm.trans h
      exact .inl .localhost
    · cases s with
      | nil => cases h
      | cons c rest =>
        by_cases hc : c = '['
        · subst hc
          obtain ⟨inner, rfl, hread⟩ := host_bracket_iff.mp h
          cases ip with
          | v4 x => exact .inr ⟨x, by rw [IpAddress.ofChars?_eq_some_v4_iff.mp hread], rfl⟩
          | v6 x => exact .inl (.v6 hread)
        · obtain ⟨hcolon, hread⟩ := (host_bare_iff (by simp) hl (by simpa using hc)).mp h
          cases ip with
          | v4 x => exact .inl (IpAddress.ofChars?_eq_some_v4_iff.mp hread ▸ .v4 x)
          | v6 x => exact absurd (IpAddress.colon_mem_of_ofChars? hread) hcolon

/-! ### Addresses -/

theorem ofChars_of_colon_notMem {s : List Char} (hs : ':' ∉ s) {address : SocketAddress} :
    ofChars s = .ok address ↔ ∃ n, SignedPort s n ∧ address = ⟨.v4 .unspecified, n⟩ := by
  simp only [ofChars, Text.splitLast_eq_none_iff.mpr hs, signedPort_iff]
  cases port? s with
  | none => simp
  | some n => by_cases h0 : n = 0 <;> simp [h0, eq_comm]

theorem ofChars_hostPort {before after : List Char} (hs : ':' ∉ after) {address : SocketAddress} :
    ofChars (before ++ ':' :: after) = .ok address ↔
      ∃ ip n, BracketedHost before ip ∧ SignedPort after n ∧ address = ⟨ip, n⟩ := by
  have hsplit : Text.splitLast ':' (before ++ ':' :: after) = some (before, after) :=
    Text.splitLast_eq_some_iff.mpr ⟨rfl, hs⟩
  simp only [ofChars, hsplit, signedPort_iff, bracketedHost_iff]
  cases port? after with
  | none => simp
  | some n =>
    by_cases h0 : n = 0
    · simp [h0]
    · cases host before <;> simp [h0, Except.map, eq_comm]

theorem ofChars_eq_ok_iff {s : List Char} {address : SocketAddress} :
    ofChars s = .ok address ↔ Form BracketedHost SignedPort s address := by
  cases hsplit : Text.splitLast ':' s with
  | none =>
    have hs : ':' ∉ s := Text.splitLast_eq_none_iff.mp hsplit
    rw [ofChars_of_colon_notMem hs, form_iff_of_colon_notMem hs]
  | some pieces =>
    obtain ⟨rfl, hs⟩ := Text.splitLast_eq_some_iff.mp hsplit
    rw [ofChars_hostPort hs, form_hostPort_iff (fun _ _ => SignedPort.colon_notMem) hs]

/-- A listen address is read of the texts of its form, and of no others. -/
theorem ofText_ok_iff_form (text : String) (address : SocketAddress) :
    ofText text = .ok address ↔ Form BracketedHost SignedPort text.toList address :=
  ofChars_eq_ok_iff

theorem not_host_brackets (x : Ipv4) (ip : IpAddress) : ¬ Host ('[' :: (x.chars ++ [']'])) ip := by
  generalize hs : '[' :: (x.chars ++ [']']) = s
  intro h
  cases h with
  | localhost => simp at hs
  | v4 y =>
    have hm : '[' ∈ y.chars := hs ▸ List.mem_cons_self
    simpa using Ipv4.isDigit_or_dot hm
  | v6 hy =>
    obtain rfl := List.append_cancel_right (List.cons.inj hs).2
    rw [IpAddress.ofChars?_v4] at hy
    cases hy

/-- A port with a sign, and an IPv4 address in brackets. -/
theorem read_not_documented :
    (ofText "+7071" = .ok ⟨.v4 .unspecified, 7071⟩ ∧
      ∀ address, ¬ Form Host Port "+7071".toList address) ∧
    ofText "[127.0.0.1]:80" = .ok ⟨.v4 .localhost, 80⟩ ∧
      ∀ address, ¬ Form Host Port "[127.0.0.1]:80".toList address := by
  have hplus : "+7071".toList = '+' :: "7071".toList := by decide
  have hbrackets : "[127.0.0.1]:80".toList =
      '[' :: (Ipv4.localhost.chars ++ [']']) ++ ':' :: "80".toList := by decide
  refine ⟨⟨by decide, fun address h => ?_⟩, by decide, fun address h => ?_⟩
  · rw [form_iff_of_colon_notMem (by decide), hplus] at h
    obtain ⟨n, hn, -⟩ := h
    exact not_digits_plus _ n hn.1
  · rw [hbrackets, form_hostPort_iff (fun _ _ => Port.colon_notMem) (by decide)] at h
    obtain ⟨ip, n, hip, -⟩ := h
    exact not_host_brackets .localhost ip hip

/-! ### Printed addresses -/

/-- What is printed has the documented form. -/
theorem form_chars {x : SocketAddress} (hx : x.port ≠ 0) : Form Host Port x.chars x := by
  obtain ⟨ip, port⟩ := x
  have hport : Port (Nat.toDigits 10 port.toNat) port := ⟨digits_toDigits port, hx⟩
  cases ip with
  | v4 x => exact .hostPort (.v4 x) hport
  | v6 x => exact .hostPort (.v6 (IpAddress.ofChars?_v6 x)) hport

theorem Form.bracketed_signed {s : List Char} {address : SocketAddress} (h : Form Host Port s address) :
    Form BracketedHost SignedPort s address := by
  cases h with
  | port hn => exact .port (.inl hn)
  | hostPort hip hn => exact .hostPort (.inl hip) (.inl hn)

theorem Form.port_ne_zero {s : List Char} {address : SocketAddress}
    (h : Form BracketedHost SignedPort s address) : address.port ≠ 0 := by
  cases h with
  | port hn => exact (signedPort_iff.mp hn).2
  | hostPort hip hn => exact (signedPort_iff.mp hn).2

/-- Every address with a port is read of its own text. -/
theorem ofText_text (x : SocketAddress) :
    (ofText x.text = .ok x ↔ x.port ≠ 0) ∧ ∀ text, ofText text = .ok x → ofText x.text = .ok x := by
  have hread : ofText x.text = .ok x ↔ Form BracketedHost SignedPort x.chars x := by
    rw [ofText, SocketAddress.text, String.toList_ofList, ofChars_eq_ok_iff]
  have hport : Form BracketedHost SignedPort x.chars x ↔ x.port ≠ 0 :=
    ⟨Form.port_ne_zero, fun hx => (form_chars hx).bracketed_signed⟩
  refine ⟨hread.trans hport, fun text h => ?_⟩
  rw [hread, hport]
  exact (ofChars_eq_ok_iff.mp h).port_ne_zero

/-- A text that is not the one that is printed. -/
theorem ofText_text_zeros :
    ofText "[2001:0DB8:0:0:1::1]:8080" =
        .ok ⟨.v6 ⟨[0x2001, 0xdb8, 0, 0, 1, 0, 0, 1], rfl⟩, 8080⟩ ∧
      SocketAddress.text ⟨.v6 ⟨[0x2001, 0xdb8, 0, 0, 1, 0, 0, 1], rfl⟩, 8080⟩ =
        "[2001:db8::1:0:0:1]:8080" ∧
      ofText (SocketAddress.text ⟨.v6 ⟨[0x2001, 0xdb8, 0, 0, 1, 0, 0, 1], rfl⟩, 8080⟩) =
        .ok ⟨.v6 ⟨[0x2001, 0xdb8, 0, 0, 1, 0, 0, 1], rfl⟩, 8080⟩ := by
  have hread : ofText "[2001:0DB8:0:0:1::1]:8080" =
      .ok ⟨.v6 ⟨[0x2001, 0xdb8, 0, 0, 1, 0, 0, 1], rfl⟩, 8080⟩ := by decide
  exact ⟨hread, by decide, (ofText_text _).2 _ hread⟩

end ListenAddress
end BeanMetrics
