import MediaServer.Foundation.Reader
import MediaServer.Foundation.Text
import MediaServer.Transcription.Manager

/-!
# Reading a socket address

`addr.parse()` of `connect_with_timeout` is `SocketAddr::from_str` of the standard library.
It takes an IPv4 address and a port, or an IPv6 address in brackets and a port, and no
host names.  The readers follow its parser: each takes what it can from the front of the
text, and at the end the whole text has to be taken.

* `StopsAt`: a reader of an IPv4 address does not look past a colon, nor one of an IPv6
  address past a bracket;
* `fromStr_text_iff`: an address of the documented form `host:port` is a socket address
  exactly when its host is an IPv4 literal or a bracketed IPv6 literal;
* `IsOutside`: characters that stand in no such address, white space and the comma among
  them.
-/

namespace MediaServer
namespace Transcription

open Foundation

/-! ## The parser -/

namespace AddrParser

/-- The value of a digit or a letter, and something larger for every other character. -/
def digitValue (c : Char) : Nat :=
  if '0' ≤ c ∧ c ≤ '9' then c.toNat - '0'.toNat
  else if 'a' ≤ c ∧ c ≤ 'z' then c.toNat - 'a'.toNat + 10
  else if 'A' ≤ c ∧ c ≤ 'Z' then c.toNat - 'A'.toNat + 10
  else 36

/-- `to_digit(radix)` finds a digit. -/
def isDigit (radix : Nat) (c : Char) : Bool := decide (digitValue c < radix)

/-- The number that digits denote. -/
def number (radix : Nat) (digits : List Char) : Nat :=
  digits.foldl (fun value c => value * radix + digitValue c) 0

/-- `read_given_char` -/
def readGivenChar (target : Char) : Reader Char Unit := do
  let _ ← Reader.item (fun c => decide (c = target))

/-- `read_separator`: the separator stands before every index but the first. -/
def readSeparator {α : Type} (sep : Char) (index : Nat) (inner : Reader Char α) : Reader Char α :=
  if index = 0 then inner
  else do
    readGivenChar sep
    inner

/-- `read_number` of a type with `bound` values. -/
def readNumber (radix bound : Nat) (maxDigits : Option Nat) (allowZeroPrefix : Bool) :
    Reader Char Nat := do
  let digits ← Reader.span (isDigit radix)
  if digits = [] then failure
  else if maxDigits.any (fun max => decide (max < digits.length)) then failure
  else if allowZeroPrefix = false ∧ digits.head? = some '0' ∧ 1 < digits.length then failure
  else if bound ≤ number radix digits then failure
  else pure (number radix digits)

/-- One of the numbers of an IPv4 address. -/
def readOctet (index : Nat) : Reader Char Nat :=
  readSeparator '.' index (readNumber 10 256 (some 3) false)

/-- `read_ipv4_addr` -/
def readIpv4Addr : Reader Char (BitVec 32) := do
  let first ← readOctet 0
  let second ← readOctet 1
  let third ← readOctet 2
  let fourth ← readOctet 3
  pure (BitVec.ofNat 32 (((first * 256 + second) * 256 + third) * 256 + fourth))

/-- `read_groups` from a slot on: the groups, and whether an embedded IPv4 address, which
fills two slots, ends them. -/
def readGroups (index : Nat) : Nat → Reader Char (List Nat × Bool)
  | 0 => pure ([], false)
  | left + 1 =>
      (if left = 0 then failure
        else do
          let ipv4 ← readSeparator ':' index readIpv4Addr
          pure ([ipv4.toNat / 65536, ipv4.toNat % 65536], true)) <|>
      (do
        let group ← readSeparator ':' index (readNumber 16 65536 (some 4) true)
        let (groups, embedded) ← readGroups (index + 1) left
        pure (group :: groups, embedded)) <|>
      pure ([], false)

/-- `read_ipv6_addr` -/
def readIpv6Addr : Reader Char (BitVec 128) := do
  let (head, embedded) ← readGroups 0 8
  if head.length = 8 then
    pure (BitVec.ofNat 128 (head.foldl (fun ip group => ip * 65536 + group) 0))
  else if embedded then failure
  else do
    -- `::` stands for at least one group
    readGivenChar ':'
    readGivenChar ':'
    let (tail, _) ← readGroups 0 (8 - (head.length + 1))
    let groups := head ++ List.replicate (8 - head.length - tail.length) 0 ++ tail
    pure (BitVec.ofNat 128 (groups.foldl (fun ip group => ip * 65536 + group) 0))

/-- `read_port` -/
def readPort : Reader Char UInt16 := do
  readGivenChar ':'
  let port ← readNumber 10 65536 none true
  pure (UInt16.ofNat port)

/-- `read_scope_id` -/
def readScopeId : Reader Char UInt32 := do
  readGivenChar '%'
  let scopeId ← readNumber 10 4294967296 none true
  pure (UInt32.ofNat scopeId)

/-- `read_socket_addr_v4` -/
def readSocketAddrV4 : Reader Char SocketAddr := do
  let ip ← readIpv4Addr
  let port ← readPort
  pure (.v4 ip port)

/-- `read_socket_addr_v6` -/
def readSocketAddrV6 : Reader Char SocketAddr := do
  readGivenChar '['
  let ip ← readIpv6Addr
  let scopeId ← readScopeId <|> pure 0
  readGivenChar ']'
  let port ← readPort
  pure (.v6 ip port 0 scopeId)

/-- `read_socket_addr` -/
def readSocketAddr : Reader Char SocketAddr := readSocketAddrV4 <|> readSocketAddrV6

end AddrParser

open AddrParser

/-- `SocketAddr::from_str` -/
def SocketAddr.fromStr (addr : String) : Except String SocketAddr :=
  match Reader.whole readSocketAddr addr.toList with
  | some socketAddr => .ok socketAddr
  | none => .error "invalid socket address syntax"

/-! ## What the readers do not look past -/

namespace AddrParser

section StopsAt

variable {stop : Char}

theorem stopsAt_readGivenChar {target : Char} (hstop : stop ≠ target) :
    Reader.StopsAt stop (readGivenChar target) := by
  have hitem : Reader.StopsAt stop (Reader.item fun c => decide (c = target)) :=
    Reader.stopsAt_item (decide_eq_false hstop)
  exact hitem.bind fun _ => Reader.stopsAt_pure ()

theorem stopsAt_readSeparator {α : Type} {sep : Char} {inner : Reader Char α}
    (hstop : stop ≠ sep) (index : Nat) (hinner : Reader.StopsAt stop inner) :
    Reader.StopsAt stop (readSeparator sep index inner) :=
  Reader.stopsAt_ite hinner ((stopsAt_readGivenChar hstop).bind fun _ => hinner)

theorem stopsAt_readNumber {radix : Nat} (hstop : isDigit radix stop = false) (bound : Nat)
    (maxDigits : Option Nat) (allowZeroPrefix : Bool) :
    Reader.StopsAt stop (readNumber radix bound maxDigits allowZeroPrefix) := by
  refine (Reader.stopsAt_span hstop).bind fun digits => ?_
  refine Reader.stopsAt_ite Reader.stopsAt_failure ?_
  refine Reader.stopsAt_ite Reader.stopsAt_failure ?_
  refine Reader.stopsAt_ite Reader.stopsAt_failure ?_
  exact Reader.stopsAt_ite Reader.stopsAt_failure (Reader.stopsAt_pure _)

theorem stopsAt_readIpv4Addr (hdigit : isDigit 10 stop = false) (hdot : stop ≠ '.') :
    Reader.StopsAt stop readIpv4Addr := by
  have hoctet : ∀ index, Reader.StopsAt stop (readOctet index) := fun index =>
    stopsAt_readSeparator hdot index (stopsAt_readNumber hdigit 256 (some 3) false)
  refine (hoctet 0).bind fun _ => (hoctet 1).bind fun _ => (hoctet 2).bind fun _ => ?_
  exact (hoctet 3).bind fun _ => Reader.stopsAt_pure _

/-- `read_groups`, by induction on the slots that are left. -/
theorem stopsAt_readGroups (hdigit : isDigit 10 stop = false) (hhex : isDigit 16 stop = false)
    (hdot : stop ≠ '.') (hcolon : stop ≠ ':') (index left : Nat) :
    Reader.StopsAt stop (readGroups index left) := by
  induction left generalizing index with
  | zero => exact Reader.stopsAt_pure _
  | succ left ih =>
      have hipv4 := stopsAt_readSeparator hcolon index (stopsAt_readIpv4Addr hdigit hdot)
      have hgroup := stopsAt_readSeparator hcolon index
        (stopsAt_readNumber hhex 65536 (some 4) true)
      refine (Reader.stopsAt_ite Reader.stopsAt_failure ?_).orElse (.orElse ?_ ?_)
      · exact hipv4.bind fun _ => Reader.stopsAt_pure _
      · exact hgroup.bind fun _ => (ih (index + 1)).bind fun _ => Reader.stopsAt_pure _
      · exact Reader.stopsAt_pure _

theorem stopsAt_readIpv6Addr (hdigit : isDigit 10 stop = false) (hhex : isDigit 16 stop = false)
    (hdot : stop ≠ '.') (hcolon : stop ≠ ':') : Reader.StopsAt stop readIpv6Addr := by
  have hgroups := stopsAt_readGroups hdigit hhex hdot hcolon
  refine (hgroups 0 8).bind fun head => ?_
  refine Reader.stopsAt_ite (Reader.stopsAt_pure _) ?_
  refine Reader.stopsAt_ite Reader.stopsAt_failure ?_
  refine (stopsAt_readGivenChar hcolon).bind fun _ => ?_
  refine (stopsAt_readGivenChar hcolon).bind fun _ => ?_
  exact (hgroups 0 _).bind fun tail => Reader.stopsAt_pure _

end StopsAt

theorem run_readGivenChar_self (target : Char) (rest : List Char) :
    (readGivenChar target).run (target :: rest) = some ((), rest) := by
  simp [readGivenChar, Reader.run_item_cons]

/-- The digits make a number that `read_number` accepts. -/
structure IsNumber (radix bound : Nat) (maxDigits : Option Nat) (allowZeroPrefix : Bool)
    (digits : List Char) : Prop where
  nonempty : digits ≠ []
  length_le : ∀ max ∈ maxDigits, digits.length ≤ max
  zeroPrefix : allowZeroPrefix = false → digits.head? = some '0' → digits.length ≤ 1
  bound : number radix digits < bound

/-- `read_number` takes all digits there are, or nothing. -/
theorem run_readNumber_eq_some_iff {radix bound : Nat} {maxDigits : Option Nat}
    {allowZeroPrefix : Bool} {text rest : List Char} {value : Nat} :
    (readNumber radix bound maxDigits allowZeroPrefix).run text = some (value, rest) ↔
      IsNumber radix bound maxDigits allowZeroPrefix (text.takeWhile (isDigit radix)) ∧
        number radix (text.takeWhile (isDigit radix)) = value ∧
        text.dropWhile (isDigit radix) = rest := by
  rw [readNumber, StateT.run_bind, Reader.run_span, Option.bind_eq_bind, Option.bind_some]
  generalize text.takeWhile (isDigit radix) = digits
  generalize text.dropWhile (isDigit radix) = left
  have hmax : maxDigits.any (fun max => decide (max < digits.length)) = true ↔
      ∃ max ∈ maxDigits, max < digits.length := by
    cases maxDigits <;> simp
  constructor
  · intro hrun
    dsimp only at hrun
    split_ifs at hrun with hnil hlong hzero hlarge
    · contradiction
    · contradiction
    · contradiction
    · contradiction
    · obtain ⟨rfl, rfl⟩ := Prod.mk.inj (Option.some.inj hrun)
      refine ⟨⟨hnil, ?_, ?_, Nat.not_le.mp hlarge⟩, rfl, rfl⟩
      · intro max hmem
        rw [hmax] at hlong
        exact Nat.not_lt.mp fun hlt => hlong ⟨max, hmem, hlt⟩
      · intro hallow hhead
        exact Nat.not_lt.mp fun hlt => hzero ⟨hallow, hhead, hlt⟩
  · rintro ⟨hnumber, rfl, rfl⟩
    have hlong : ¬ maxDigits.any (fun max => decide (max < digits.length)) = true := by
      rw [hmax]
      rintro ⟨max, hmem, hlt⟩
      exact absurd (hnumber.length_le max hmem) (Nat.not_le.mpr hlt)
    have hzero : ¬ (allowZeroPrefix = false ∧ digits.head? = some '0' ∧ 1 < digits.length) := by
      rintro ⟨hallow, hhead, hlt⟩
      exact absurd (hnumber.zeroPrefix hallow hhead) (Nat.not_le.mpr hlt)
    rw [if_neg hnumber.nonempty, if_neg hlong, if_neg hzero,
      if_neg (Nat.not_le.mpr hnumber.bound)]
    rfl

/-- A text of digits is read to its end. -/
theorem run_readNumber_self {radix bound : Nat} {maxDigits : Option Nat}
    {allowZeroPrefix : Bool} {text : List Char} (hdigits : ∀ c ∈ text, isDigit radix c = true)
    (hnumber : IsNumber radix bound maxDigits allowZeroPrefix text) :
    (readNumber radix bound maxDigits allowZeroPrefix).run text =
      some (number radix text, []) := by
  have htake : text.takeWhile (isDigit radix) = text := List.takeWhile_eq_self_iff.mpr hdigits
  have hdrop : text.dropWhile (isDigit radix) = [] := List.dropWhile_eq_nil_iff.mpr hdigits
  rw [run_readNumber_eq_some_iff, htake]
  exact ⟨hnumber, rfl, hdrop⟩

theorem run_readNumber_of_not_isDigit {radix bound : Nat} {maxDigits : Option Nat}
    {allowZeroPrefix : Bool} {first : Char} (hfirst : isDigit radix first = false)
    (rest : List Char) :
    (readNumber radix bound maxDigits allowZeroPrefix).run (first :: rest) = none := by
  rw [Option.eq_none_iff_forall_ne_some]
  rintro ⟨value, left⟩ hrun
  apply (run_readNumber_eq_some_iff.mp hrun).1.nonempty
  rw [List.takeWhile_cons, hfirst]
  rfl

theorem run_readGivenChar_of_ne {target first : Char} (hne : first ≠ target)
    (rest : List Char) : (readGivenChar target).run (first :: rest) = none := by
  simp [readGivenChar, Reader.run_item_cons, hne]

end AddrParser

/-! ## Addresses with a port -/

/-- `Ipv4Addr::from_str` accepts the text. -/
def IsIpv4Literal (text : List Char) : Prop := (Reader.whole readIpv4Addr text).isSome = true

/-- `Ipv6Addr::from_str` accepts the text. -/
def IsIpv6Literal (text : List Char) : Prop := (Reader.whole readIpv6Addr text).isSome = true

instance (text : List Char) : Decidable (IsIpv4Literal text) :=
  inferInstanceAs (Decidable (_ = true))

instance (text : List Char) : Decidable (IsIpv6Literal text) :=
  inferInstanceAs (Decidable (_ = true))

/-- An IPv4 literal, or an IPv6 literal in brackets. -/
def IsIpLiteral (host : List Char) : Prop :=
  IsIpv4Literal host ∨ ∃ literal, IsIpv6Literal literal ∧ host = '[' :: literal ++ [']']

/-- Decimal digits that denote a `u16`. -/
structure IsPort (text : List Char) : Prop where
  nonempty : text ≠ []
  digits : ∀ c ∈ text, isDigit 10 c = true
  bound : number 10 text < 65536

section Port

variable {port : List Char}

theorem run_readNumber_port (hport : IsPort port) :
    (readNumber 10 65536 none true).run port = some (number 10 port, []) :=
  run_readNumber_self hport.digits ⟨hport.nonempty, by simp, by simp, hport.bound⟩

theorem run_readPort (hport : IsPort port) :
    readPort.run (':' :: port) = some (UInt16.ofNat (number 10 port), []) := by
  rw [readPort, StateT.run_bind, run_readGivenChar_self]
  simp [run_readNumber_port hport]

/-- No port is read to the end of a text in which something stands before the colon of its
port. -/
theorem run_readPort_ne (first : Char) (left port : List Char) (value : UInt16) :
    readPort.run (first :: (left ++ ':' :: port)) ≠ some (value, []) := by
  intro hrun
  have hstops : Reader.StopsAt ':' (readNumber 10 65536 none true) :=
    stopsAt_readNumber (by decide) 65536 none true
  rw [readPort, StateT.run_bind] at hrun
  by_cases hcolon : first = ':'
  · subst hcolon
    rw [run_readGivenChar_self, Option.bind_eq_bind, Option.bind_some, StateT.run_bind,
      hstops left port] at hrun
    cases hnumber : (readNumber 10 65536 none true).run left with
    | none => simp [hnumber] at hrun
    | some result => simp [hnumber] at hrun
  · rw [run_readGivenChar_of_ne hcolon] at hrun
    simp at hrun

/-- Before a port, an IPv4 socket address is an IPv4 literal. -/
theorem whole_readSocketAddrV4_iff (hport : IsPort port) {host : List Char} :
    (∃ socketAddr, Reader.whole readSocketAddrV4 (host ++ ':' :: port) = some socketAddr) ↔
      IsIpv4Literal host := by
  have hstops : Reader.StopsAt ':' readIpv4Addr := stopsAt_readIpv4Addr (by decide) (by decide)
  rw [IsIpv4Literal, Option.isSome_iff_exists]
  simp only [Reader.whole_eq_some_iff, readSocketAddrV4, StateT.run_bind, hstops host port]
  cases readIpv4Addr.run host with
  | none => simp
  | some result =>
      obtain ⟨ip, left⟩ := result
      cases left with
      | nil => simp [run_readPort hport]
      | cons first left =>
          have hne := run_readPort_ne first left port
          cases hrun : readPort.run (first :: (left ++ ':' :: port)) with
          | none => simp [hrun]
          | some result =>
              obtain ⟨value, rest⟩ := result
              have hrest : rest ≠ [] := by
                rintro rfl
                exact hne value hrun
              simp [hrun, hrest]

/-- Before a port, an IPv6 literal in brackets makes a socket address. -/
theorem whole_readSocketAddrV6 (hport : IsPort port) {literal : List Char}
    (hliteral : IsIpv6Literal literal) :
    ∃ socketAddr, Reader.whole readSocketAddrV6 ('[' :: literal ++ [']'] ++ ':' :: port) =
      some socketAddr := by
  have hstops : Reader.StopsAt ']' readIpv6Addr :=
    stopsAt_readIpv6Addr (by decide) (by decide) (by decide) (by decide)
  obtain ⟨ip, hip⟩ := Option.isSome_iff_exists.mp hliteral
  rw [Reader.whole_eq_some_iff] at hip
  have hscope : readScopeId.run (']' :: ':' :: port) = none := by
    rw [readScopeId, StateT.run_bind, run_readGivenChar_of_ne (by decide)]
    rfl
  refine ⟨.v6 ip (UInt16.ofNat (number 10 port)) 0 0, ?_⟩
  rw [Reader.whole_eq_some_iff, readSocketAddrV6]
  simp [run_readGivenChar_self, hstops literal, hip, hscope, run_readPort hport]

theorem run_readSocketAddrV4_bracket (rest : List Char) :
    readSocketAddrV4.run ('[' :: rest) = none := by
  have hnone : (readOctet 0).run ('[' :: rest) = none :=
    run_readNumber_of_not_isDigit (by decide) rest
  rw [readSocketAddrV4, StateT.run_bind, readIpv4Addr, StateT.run_bind, hnone]
  rfl

theorem run_readSocketAddrV6_of_ne {first : Char} (hfirst : first ≠ '[') (rest : List Char) :
    readSocketAddrV6.run (first :: rest) = none := by
  rw [readSocketAddrV6, StateT.run_bind, run_readGivenChar_of_ne hfirst]
  rfl

end Port

/-! ## Documented addresses -/

/-- Letters, digits, hyphens, underscores and dots. -/
def isDnsChar (c : Char) : Bool := isDigit 36 c || c = '-' || c = '_' || c = '.'

/-- A name that can be looked up. -/
structure IsDnsName (name : List Char) : Prop where
  nonempty : name ≠ []
  chars : ∀ c ∈ name, isDnsChar c = true

/-- What may stand before the port of a server's address. -/
inductive Host
  | dnsName (name : List Char) (hname : IsDnsName name)
  | ipv4 (literal : List Char) (hliteral : IsIpv4Literal literal)
  | ipv6 (literal : List Char) (hliteral : IsIpv6Literal literal)

def Host.text : Host → List Char
  | dnsName name _ => name
  | ipv4 literal _ => literal
  | ipv6 literal _ => '[' :: literal ++ [']']

/-- Server address in format "host:port" -/
structure Address where
  host : Host
  port : List Char
  hport : IsPort port

def Address.text (address : Address) : String :=
  String.ofList (address.host.text ++ ':' :: address.port)

/-! ### The characters of an address -/

/-- A character that stands in no address: none of a name, of a number or between them. -/
structure IsOutside (c : Char) : Prop where
  dnsChar : isDnsChar c = false
  decimal : isDigit 10 c = false
  hexadecimal : isDigit 16 c = false
  colon : c ≠ ':'
  brackets : c ≠ '[' ∧ c ≠ ']'

theorem IsOutside.not_mem_text {c : Char} (houtside : IsOutside c) (address : Address) :
    c ∉ address.text.toList := by
  have hdot : c ≠ '.' := by
    rintro rfl
    exact absurd houtside.dnsChar (by decide)
  have hhost : c ∉ address.host.text := by
    cases address.host with
    | dnsName name hname =>
        intro hmem
        have hchar := hname.chars c hmem
        rw [houtside.dnsChar] at hchar
        contradiction
    | ipv4 literal hliteral =>
        exact (stopsAt_readIpv4Addr houtside.decimal hdot).not_mem hliteral
    | ipv6 literal hliteral =>
        have hnone := (stopsAt_readIpv6Addr houtside.decimal houtside.hexadecimal hdot
          houtside.colon).not_mem hliteral
        simp [Host.text, hnone, houtside.brackets.1, houtside.brackets.2]
  have hport : c ∉ address.port := by
    intro hmem
    have hdigit := address.hport.digits c hmem
    rw [houtside.decimal] at hdigit
    contradiction
  rw [Address.text, String.toList_ofList]
  simp [hhost, hport, houtside.colon]

theorem isOutside_comma : IsOutside ',' := by
  constructor <;> decide

theorem toNat_of_isWhitespace {c : Char} (hblank : Text.isWhitespace c = true) :
    c.toNat ≤ 32 ∨ 133 ≤ c.toNat := by
  simp only [Text.isWhitespace, Bool.or_eq_true, Bool.and_eq_true, decide_eq_true_eq,
    beq_iff_eq] at hblank
  omega

theorem toNat_of_digitValue {c : Char} (hc : digitValue c < 36) :
    48 ≤ c.toNat ∧ c.toNat ≤ 122 := by
  simp only [digitValue, Char.le_def, UInt32.le_iff_toNat_le] at hc
  split_ifs at hc with hdecimal hlower hupper
  · exact ⟨hdecimal.1, hdecimal.2.trans (by decide)⟩
  · exact ⟨le_trans (by decide) hlower.1, hlower.2⟩
  · exact ⟨le_trans (by decide) hupper.1, hupper.2.trans (by decide)⟩
  · omega

/-- White space stands in no address. -/
theorem isOutside_of_isWhitespace {c : Char} (hblank : Text.isWhitespace c = true) :
    IsOutside c := by
  have hcode := toNat_of_isWhitespace hblank
  have hne : ∀ other : Char, 32 < other.toNat ∧ other.toNat < 133 → c ≠ other := by
    rintro other hother rfl
    omega
  have hdigit : 36 ≤ digitValue c := by
    by_contra hsmall
    have hrange := toNat_of_digitValue (Nat.not_le.mp hsmall)
    omega
  have hradix : ∀ radix, radix ≤ 36 → isDigit radix c = false := by
    intro radix hradix
    simp only [isDigit, decide_eq_false_iff_not]
    omega
  have hnames : c ≠ '-' ∧ c ≠ '_' ∧ c ≠ '.' :=
    ⟨hne '-' (by decide), hne '_' (by decide), hne '.' (by decide)⟩
  constructor
  · simp [isDnsChar, hradix 36 (Nat.le_refl 36), hnames]
  · exact hradix 10 (by decide)
  · exact hradix 16 (by decide)
  · exact hne ':' (by decide)
  · exact ⟨hne '[' (by decide), hne ']' (by decide)⟩

theorem isDnsChar_bracket : isDnsChar '[' = false := by decide

/-- A DNS name is an IP literal only if it reads as an IPv4 literal. -/
theorem isIpLiteral_dnsName_iff {name : List Char} (hname : IsDnsName name) :
    IsIpLiteral name ↔ IsIpv4Literal name := by
  constructor
  · rintro (hliteral | ⟨literal, -, rfl⟩)
    · exact hliteral
    · have hbracket := hname.chars '[' (by simp)
      rw [isDnsChar_bracket] at hbracket
      contradiction
  · exact .inl

theorem fromStr_eq_ok_iff {addr : String} {socketAddr : SocketAddr} :
    SocketAddr.fromStr addr = .ok socketAddr ↔
      Reader.whole readSocketAddr addr.toList = some socketAddr := by
  rw [SocketAddr.fromStr]
  cases Reader.whole readSocketAddr addr.toList <;> simp

/-- An address of the documented form is a socket address exactly when its host is an IP
literal. -/
theorem fromStr_text_iff (address : Address) :
    (∃ socketAddr, SocketAddr.fromStr address.text = .ok socketAddr) ↔
      IsIpLiteral address.host.text := by
  obtain ⟨host, port, hport⟩ := address
  simp only [fromStr_eq_ok_iff, Address.text, String.toList_ofList]
  cases host with
  | dnsName name hname =>
      rw [Host.text, isIpLiteral_dnsName_iff hname, ← whole_readSocketAddrV4_iff hport]
      obtain ⟨first, rest, rfl⟩ := List.exists_cons_of_ne_nil hname.nonempty
      have hfirst : first ≠ '[' := by
        rintro rfl
        have hbracket := hname.chars '[' List.mem_cons_self
        rw [isDnsChar_bracket] at hbracket
        contradiction
      -- the second reader fails at the first character
      simp only [Reader.whole_eq_some_iff, readSocketAddr, Reader.run_orElse, List.cons_append,
        run_readSocketAddrV6_of_ne hfirst]
      simp
  | ipv4 literal hliteral =>
      obtain ⟨socketAddr, hwhole⟩ := (whole_readSocketAddrV4_iff hport).mpr hliteral
      rw [Reader.whole_eq_some_iff] at hwhole
      have hread : Reader.whole readSocketAddr (literal ++ ':' :: port) = some socketAddr := by
        rw [Reader.whole_eq_some_iff, readSocketAddr, Reader.run_orElse, hwhole]
        rfl
      exact iff_of_true ⟨socketAddr, hread⟩ (.inl hliteral)
  | ipv6 literal hliteral =>
      obtain ⟨socketAddr, hwhole⟩ := whole_readSocketAddrV6 hport hliteral
      rw [Reader.whole_eq_some_iff] at hwhole
      have hread : Reader.whole readSocketAddr ('[' :: literal ++ [']'] ++ ':' :: port) =
          some socketAddr := by
        rw [Reader.whole_eq_some_iff, readSocketAddr, Reader.run_orElse, ← hwhole]
        simp [run_readSocketAddrV4_bracket]
      exact iff_of_true ⟨socketAddr, hread⟩ (.inr ⟨literal, hliteral, rfl⟩)

example : SocketAddr.fromStr "127.0.0.1:43007" = .ok (.v4 0x7F000001#32 43007) := by decide

end Transcription
end MediaServer
