import ChannelAccess.AddressList
import ChannelAccess.Proofs.Address.Text

/-!
# Which addresses a list names

A list names the addresses that are written in it, and nothing else: `lists_read_iff`.
`Writes` says how an address is written as an entry, `Lists` how addresses are written as entries
with any others among them, and `Fields.Spaced` how entries are set apart by white space. An entry
that writes no address leaves no trace, whatever is wrong with it, because each entry is resolved on
its own.

Entries come in two forms that are told apart by a colon, which addresses of 128 bits hold as well.
So what an entry names is settled for both forms together: an entry that writes an address names
that one (`filter_resolve_of_writes`), and an entry that names an address writes it
(`writes_of_mem_resolve`).
-/

namespace ChannelAccess

namespace AddressList

/-- Looking a host up gives the address that it is written as. Names of hosts have no address. -/
structure LooksUpLiterals (lookUp : List Char → List IPAddress) : Prop where
  /-- A host that is written as an address has this address. -/
  literal : ∀ host ip, IPAddress.read? host = some ip → lookUp host = [ip]
  /-- Any other host has none. -/
  name : ∀ host, IPAddress.read? host = none → lookUp host = []

/-- The entry is a way to write the address of 32 bits: the host, and its port after a colon. The
port may be left out if it is the default. -/
inductive Writes (defaultPort : UInt16) : List Char → SocketAddress → Prop where
  /-- The port may have a plus sign and leading zeros. -/
  | withPort (bits : UInt32) {port : UInt16} {digits : List Char}
      (spells : Natural.Spells digits port.toNat) :
    Writes defaultPort ((IPAddress.v4Text bits).toList ++ ':' :: digits) ⟨.v4 bits, port⟩
  /-- Only the host is written. -/
  | withoutPort (bits : UInt32) :
    Writes defaultPort (IPAddress.v4Text bits).toList ⟨.v4 bits, defaultPort⟩

/-- The entries write the addresses, in order, with other entries among them. -/
inductive Lists (defaultPort : UInt16) : List (List Char) → List SocketAddress → Prop where
  /-- No entries write no addresses. -/
  | nil : Lists defaultPort [] []
  /-- An entry that writes an address. -/
  | address {entry : List Char} {address : SocketAddress} {entries : List (List Char)}
      {addresses : List SocketAddress} (writes : Writes defaultPort entry address)
      (later : Lists defaultPort entries addresses) :
    Lists defaultPort (entry :: entries) (address :: addresses)
  /-- An entry that writes none. -/
  | other {entry : List Char} {entries : List (List Char)} {addresses : List SocketAddress}
      (foreign : ∀ address, ¬ Writes defaultPort entry address)
      (later : Lists defaultPort entries addresses) :
    Lists defaultPort (entry :: entries) addresses

/-! ## What one entry names -/

section

variable {lookUp : List Char → List IPAddress} {defaultPort : UInt16} {entry : List Char}
  {address : SocketAddress}

/-- A host that is looked up to an address of 32 bits is written as this address. -/
theorem LooksUpLiterals.eq_v4Text (literals : LooksUpLiterals lookUp) {host : List Char}
    {bits : UInt32} (found : IPAddress.v4 bits ∈ lookUp host) :
    host = (IPAddress.v4Text bits).toList := by
  cases read : IPAddress.read? host with
  | none =>
    rw [literals.name host read] at found
    exact absurd found List.not_mem_nil
  | some ip =>
    rw [literals.literal host ip read] at found
    obtain rfl := List.mem_singleton.mp found
    exact IPAddress.read?_eq_some_v4_iff.mp read

/-- A port is split off where a colon and a number of 16 bits stand after the host. -/
theorem splitPort?_eq_some_iff {host : List Char} {port : UInt16} :
    splitPort? entry = some (host, port) ↔
      ∃ digits, entry = host ++ ':' :: digits ∧ Natural.Spells digits port.toNat := by
  simp only [splitPort?, Option.bind_eq_bind, Option.bind_eq_some_iff, Prod.exists,
    Option.some.injEq, Prod.mk.injEq, SocketAddress.splitLast?_eq_some_iff]
  constructor
  · rintro ⟨front, digits, ⟨rfl, -⟩, value, isValue, rfl, rfl⟩
    exact ⟨digits, rfl, SocketAddress.spells_of_read? isValue⟩
  · rintro ⟨digits, rfl, spells⟩
    exact ⟨host, digits, ⟨rfl, SocketAddress.colon_not_mem_of_spells spells⟩, port.toNat,
      Natural.read?_eq_some_iff.mpr ⟨spells, port.toNat_lt⟩, rfl, UInt16.ofNat_toNat⟩

/-- An entry that writes an address names this one only. -/
theorem resolve_of_writes (literals : LooksUpLiterals lookUp)
    (writes : Writes defaultPort entry address) :
    resolve lookUp defaultPort entry = [address] := by
  cases writes with
  | @withPort bits port digits spells =>
    have colon : ':' ∈ (IPAddress.v4Text bits).toList ++ ':' :: digits :=
      List.mem_append_right _ List.mem_cons_self
    have last := SocketAddress.colon_not_mem_of_spells spells
    have isPort : Natural.read? Natural.bound16 digits = some port.toNat :=
      Natural.read?_eq_some_iff.mpr ⟨spells, port.toNat_lt⟩
    rw [resolve, if_pos colon, SocketAddress.read?_v4Text_append last]
    cases unsigned : Natural.readDigits? Natural.bound16 digits with
    | some value =>
      have same := (Natural.read?_of_readDigits? unsigned).symm.trans isPort
      rw [Option.some.inj same, Option.map_some, UInt16.ofNat_toNat]
    | none =>
      -- A port with a plus sign is read after the host was looked up.
      have isHost : IPAddress.read? (IPAddress.v4Text bits).toList = some (.v4 bits) :=
        IPAddress.read?_eq_some_v4_iff.mpr rfl
      rw [Option.map_none, splitPort?_eq_some_iff.mpr ⟨digits, rfl, spells⟩]
      dsimp only
      rw [literals.literal _ _ isHost, List.map_singleton]
  | withoutPort bits =>
    rw [resolve, if_neg (IPAddress.colon_not_mem_v4Text bits),
      IPAddress.read?_eq_some_v4_iff.mpr rfl]

/-- An address of 32 bits that an entry names is written there. -/
theorem writes_of_mem_resolve (literals : LooksUpLiterals lookUp)
    (named : address ∈ resolve lookUp defaultPort entry) (isV4 : address.ip.isV4 = true) :
    Writes defaultPort entry address := by
  obtain ⟨ip, port⟩ := address
  cases ip with
  | v6 => contradiction
  | v4 bits =>
    unfold resolve at named
    split at named
    · split at named
      · rename_i read
        obtain rfl := List.mem_singleton.mp named
        obtain ⟨digits, isEntry, spells⟩ := SocketAddress.exists_of_read?_eq_some read
        rw [isEntry]
        exact .withPort bits spells
      · split at named
        · rename_i host read split
          obtain ⟨ip, found, same⟩ := List.mem_map.mp named
          obtain ⟨rfl, rfl⟩ := SocketAddress.mk.inj same
          obtain ⟨digits, rfl, spells⟩ := splitPort?_eq_some_iff.mp split
          rw [literals.eq_v4Text found]
          exact .withPort bits spells
        · exact absurd named List.not_mem_nil
    · split at named
      · rename_i read
        obtain ⟨rfl, rfl⟩ := SocketAddress.mk.inj (List.mem_singleton.mp named)
        rw [IPAddress.read?_eq_some_v4_iff.mp read]
        exact .withoutPort bits
      · obtain ⟨ip, found, same⟩ := List.mem_map.mp named
        obtain ⟨rfl, rfl⟩ := SocketAddress.mk.inj same
        rw [literals.eq_v4Text found]
        exact .withoutPort bits

/-- An entry that writes an address names this one, which has 32 bits. -/
theorem filter_resolve_of_writes (literals : LooksUpLiterals lookUp)
    (writes : Writes defaultPort entry address) :
    (resolve lookUp defaultPort entry).filter (·.ip.isV4) = [address] := by
  have isV4 : address.ip.isV4 = true := by cases writes <;> rfl
  rw [resolve_of_writes literals writes]
  exact List.filter_cons_of_pos isV4

/-- The entries that name no address of 32 bits are those that write none. -/
theorem filter_resolve_eq_nil_iff (literals : LooksUpLiterals lookUp) :
    (resolve lookUp defaultPort entry).filter (·.ip.isV4) = [] ↔
      ∀ address, ¬ Writes defaultPort entry address := by
  constructor
  · intro none address writes
    rw [filter_resolve_of_writes literals writes] at none
    contradiction
  · exact fun foreign => List.filter_eq_nil_iff.mpr fun address named isV4 =>
      foreign address (writes_of_mem_resolve literals named isV4)

/-- An address of 32 bits is written in text as an entry may write it. -/
theorem writes_toText (isV4 : address.ip.isV4 = true) :
    Writes defaultPort address.toText.toList address := by
  obtain ⟨ip, port⟩ := address
  cases ip with
  | v6 => contradiction
  | v4 bits =>
    have text : (SocketAddress.toText ⟨.v4 bits, port⟩).toList =
        (IPAddress.v4Text bits).toList ++ ':' :: Nat.toDigits 10 port.toNat := by
      have colon : (toString ":").toList = [':'] := by decide
      rw [SocketAddress.toText, if_pos isV4]
      simp only [String.toList_append, Nat.toString_eq_ofList_toDigits, String.toList_ofList, colon,
        List.append_assoc]
      rfl
    rw [text]
    exact .withPort bits (Natural.spells_toDigits port.toNat)

/-- A digit is no white space. -/
theorem isAsciiBlank_of_isDigit {c : Char} (digit : c.isDigit = true) :
    Fields.isAsciiBlank c = false := by
  refine Bool.eq_false_iff.mpr fun blank => ?_
  simp only [Fields.isAsciiBlank, Bool.or_eq_true, beq_iff_eq] at blank
  rcases blank with (((rfl | rfl) | rfl) | rfl) | rfl <;> exact absurd digit (by decide)

/-- An entry that writes an address is a word. -/
theorem Writes.solid (writes : Writes defaultPort entry address) :
    entry ≠ [] ∧ ∀ c ∈ entry, Fields.isAsciiBlank c = false := by
  have host : ∀ bits : UInt32, ∀ c ∈ (IPAddress.v4Text bits).toList,
      Fields.isAsciiBlank c = false := by
    intro bits c inside
    rcases IPAddress.isDigit_or_eq_of_mem_v4Text inside with digit | rfl
    · exact isAsciiBlank_of_isDigit digit
    · decide
  cases writes with
  | @withPort bits port digits spells =>
    obtain ⟨sign, digits, rfl, isSign, -, all, -⟩ := spells
    refine ⟨List.append_ne_nil_of_right_ne_nil _ nofun, ?_⟩
    simp only [List.forall_mem_append, List.forall_mem_cons]
    refine ⟨host bits, by decide, ?_, fun c inside => isAsciiBlank_of_isDigit (all c inside)⟩
    rcases isSign with rfl | rfl
    · exact nofun
    · exact List.forall_mem_singleton.mpr (by decide)
  | withoutPort bits => exact ⟨IPAddress.v4Text_ne_nil bits, host bits⟩

end

/-! ## What all entries name -/

/-- Each entry of a list names what it names on its own. -/
theorem parseWith_eq (lookUp : List Char → List IPAddress) (text : String) (defaultPort : UInt16) :
    parseWith lookUp text defaultPort =
      (Fields.words Fields.isAsciiBlank text.toList).flatMap fun entry =>
        (resolve lookUp defaultPort entry).filter (·.ip.isV4) :=
  List.filter_flatMap

/-- Entries name the addresses that they write. -/
theorem Lists.flatMap_eq {lookUp : List Char → List IPAddress} {defaultPort : UInt16}
    {entries : List (List Char)} {addresses : List SocketAddress}
    (literals : LooksUpLiterals lookUp) (lists : Lists defaultPort entries addresses) :
    (entries.flatMap fun entry => (resolve lookUp defaultPort entry).filter (·.ip.isV4)) =
      addresses := by
  induction lists with
  | nil => rfl
  | address writes _ ih =>
    rw [List.flatMap_cons, filter_resolve_of_writes literals writes, ih, List.singleton_append]
  | other foreign _ ih =>
    rw [List.flatMap_cons, (filter_resolve_eq_nil_iff literals).mpr foreign, ih, List.nil_append]

/-- Any entries write some addresses. -/
theorem exists_lists (defaultPort : UInt16) (entries : List (List Char)) :
    ∃ addresses, Lists defaultPort entries addresses := by
  induction entries with
  | nil => exact ⟨[], .nil⟩
  | cons entry others ih =>
    obtain ⟨addresses, later⟩ := ih
    by_cases isAddress : ∃ address, Writes defaultPort entry address
    · obtain ⟨address, writes⟩ := isAddress
      exact ⟨address :: addresses, .address writes later⟩
    · exact ⟨addresses, .other (not_exists.mp isAddress) later⟩

/-- A text names the addresses that are written in it, and no others. -/
theorem parseWith_eq_iff {lookUp : List Char → List IPAddress} (literals : LooksUpLiterals lookUp)
    {defaultPort : UInt16} {text : String} {addresses : List SocketAddress} :
    parseWith lookUp text defaultPort = addresses ↔
      ∃ entries, Fields.Spaced Fields.isAsciiBlank entries text.toList ∧
        Lists defaultPort entries addresses := by
  rw [parseWith_eq]
  constructor
  · rintro rfl
    obtain ⟨addresses, lists⟩ :=
      exists_lists defaultPort (Fields.words Fields.isAsciiBlank text.toList)
    rw [lists.flatMap_eq literals]
    exact ⟨_, Fields.words_eq_iff.mp rfl, lists⟩
  · rintro ⟨entries, spaced, lists⟩
    rw [spaced.words_eq, lists.flatMap_eq literals]

/-- Addresses of 32 bits are read back from their texts with spaces between them. -/
theorem parseWith_intercalate {lookUp : List Char → List IPAddress}
    (literals : LooksUpLiterals lookUp) (defaultPort : UInt16) {addresses : List SocketAddress}
    (all : ∀ address ∈ addresses, address.ip.isV4 = true) :
    parseWith lookUp (" ".intercalate (addresses.map SocketAddress.toText)) defaultPort =
      addresses := by
  have writes : ∀ address ∈ addresses, Writes defaultPort address.toText.toList address :=
    fun address isAddress => writes_toText (all address isAddress)
  have space : " ".toList = [' '] := by decide
  refine (parseWith_eq_iff literals).mpr
    ⟨(addresses.map SocketAddress.toText).map String.toList, ?_, ?_⟩
  · rw [String.toList_intercalate, space]
    refine Fields.spaced_intercalate rfl fun part isPart => ?_
    rw [List.map_map] at isPart
    obtain ⟨address, isAddress, rfl⟩ := List.mem_map.mp isPart
    exact (writes address isAddress).solid
  · rw [List.map_map]
    clear all
    induction addresses with
    | nil => exact .nil
    | cons address others ih =>
      exact .address (writes address List.mem_cons_self)
        (ih fun other isOther => writes other (List.mem_cons_of_mem address isOther))

/-- **A list names exactly the addresses of 32 bits that are written in it**, in order and with
repetitions, whatever other entries stand among them, as long as names of hosts have no address. So
addresses that are written with spaces between them are read back. Whatever names are looked up, two
lists with white space between them name what each of them names, and only addresses of 32 bits are
named. -/
theorem lists_read_iff (lookUp : List Char → List IPAddress) (defaultPort : UInt16) :
    (LooksUpLiterals lookUp →
      (∀ (text : String) (addresses : List SocketAddress),
        parseWith lookUp text defaultPort = addresses ↔
          ∃ entries, Fields.Spaced Fields.isAsciiBlank entries text.toList ∧
            Lists defaultPort entries addresses) ∧
      ∀ addresses : List SocketAddress, (∀ address ∈ addresses, address.ip.isV4 = true) →
        parseWith lookUp (" ".intercalate (addresses.map SocketAddress.toText)) defaultPort =
          addresses) ∧
    (∀ before blank after : String, blank ≠ "" →
      (∀ c ∈ blank.toList, Fields.isAsciiBlank c = true) →
      parseWith lookUp (before ++ blank ++ after) defaultPort =
        parseWith lookUp before defaultPort ++ parseWith lookUp after defaultPort) ∧
    ∀ text, ∀ address ∈ parseWith lookUp text defaultPort, address.ip.isV4 = true := by
  refine ⟨fun literals => ⟨?_, ?_⟩, ?_, fun _ _ => isV4_of_mem_parseWith⟩
  · exact fun text addresses => parseWith_eq_iff literals
  · exact fun addresses all => parseWith_intercalate literals defaultPort all
  · intro before blank after nonempty all
    have some : blank.toList ≠ [] := mt String.toList_eq_nil_iff.mp nonempty
    simp only [parseWith_eq, String.toList_append, Fields.words_append_blank some all,
      List.flatMap_append]

/-- Looking hosts up as literals is looking up literals. -/
theorem looksUpLiterals_lookUpLiteral : LooksUpLiterals lookUpLiteral where
  literal _ _ read := congrArg Option.toList read
  name _ read := congrArg Option.toList read

/-- A list with an address that is written twice, in two ways, among entries that name none of 32
bits. -/
def mixedList : String :=
  "10.0.0.1 [::1]:80\t10.0.0.2:+00080 \x0c10.0.0.3:65536 nowhere\n10.0.0.1:5064 "

/-- The list names what is written in it. -/
theorem lists_read_iff_mixedList :
    parse mixedList 5064 =
        [⟨.v4 0x0A000001, 5064⟩, ⟨.v4 0x0A000002, 80⟩, ⟨.v4 0x0A000001, 5064⟩] ∧
      parse ("10.0.0.2" ++ "\t\n" ++ mixedList) 5064 =
        parse "10.0.0.2" 5064 ++ parse mixedList 5064 := by
  obtain ⟨reads, divides, -⟩ := lists_read_iff lookUpLiteral 5064
  have literals := looksUpLiterals_lookUpLiteral
  have spaced : Fields.Spaced Fields.isAsciiBlank
      ["10.0.0.1".toList, "[::1]:80".toList, "10.0.0.2:+00080".toList, "10.0.0.3:65536".toList,
        "nowhere".toList, "10.0.0.1:5064".toList] mixedList.toList :=
    Fields.words_eq_iff.mp (by decide +kernel)
  have foreign : ∀ entry ∈ ["[::1]:80".toList, "10.0.0.3:65536".toList, "nowhere".toList],
      ∀ address, ¬ Writes 5064 entry address := by
    intro entry isEntry
    refine (filter_resolve_eq_nil_iff literals).mp ?_
    revert entry
    decide +kernel
  have first : Writes 5064 "10.0.0.1".toList ⟨.v4 0x0A000001, 5064⟩ := .withoutPort 0x0A000001
  have second : Writes 5064 "10.0.0.2:+00080".toList ⟨.v4 0x0A000002, 80⟩ :=
    .withPort 0x0A000002
      ⟨['+'], "00080".toList, rfl, .inr rfl, by decide, List.all_eq_true.mp (by decide), by decide⟩
  have third : Writes 5064 "10.0.0.1:5064".toList ⟨.v4 0x0A000001, 5064⟩ :=
    .withPort 0x0A000001
      ⟨[], "5064".toList, rfl, .inl rfl, by decide, List.all_eq_true.mp (by decide), by decide⟩
  simp only [List.forall_mem_cons] at foreign
  obtain ⟨ofSix, noPort, noHost, -⟩ := foreign
  refine ⟨((reads literals).1 _ _).mpr ⟨_, spaced, ?_⟩, ?_⟩
  · exact .address first (.other ofSix (.address second (.other noPort (.other noHost
      (.address third .nil)))))
  · exact divides "10.0.0.2" "\t\n" mixedList (by decide) (List.all_eq_true.mp (by decide))

end AddressList

end ChannelAccess
