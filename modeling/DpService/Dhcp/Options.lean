import DpService.Packet.Mbuf
import Mathlib.Data.List.Infix

/-!
# DHCPv4 options

The options of a request are searched for the type of the message and for the
classes of clients that boot over the network.  RFC 2132 makes of the options a
sequence of single PAD bytes and of records with a type, a length and a value,
up to the end of the packet or to END.  The loop of the code keeps the length of
the last record when it meets a PAD and jumps over as many bytes behind it.
-/

namespace DpService.Dhcp

open Packet

def ascii (text : String) : List UInt8 :=
  text.toList.map fun letter => letter.toNat.toUInt8

def dhcpOptPad : UInt8 := 0
def dhcpOptSubnetMask : UInt8 := 1
def dhcpOptRouter : UInt8 := 3
def dhcpOptDns : UInt8 := 6
def dhcpOptHostname : UInt8 := 12
def dhcpOptInterfaceMtu : UInt8 := 26
def dhcpOptIpLeaseTime : UInt8 := 51
def dhcpOptMessageType : UInt8 := 53
def dhcpOptServerId : UInt8 := 54
def dhcpOptVendorClassId : UInt8 := 60
def dhcpOptUserClass : UInt8 := 77
def dhcpOptClasslessRoute : UInt8 := 121
def dhcpOptEnd : UInt8 := 255

def userClassText : List UInt8 :=
  ascii "iPXE"

def vendorClassText : List UInt8 :=
  ascii "PXEClient:Arch:00007"

inductive PxeMode where
  | none
  | tftp
  | http
  deriving DecidableEq, Repr

/-- `offsetof(struct dp_dhcp_header, options)` behind the headers of a frame. -/
def dhcpHeaderAt : Nat := 42
def optionsAt : Nat := 282

/-! ## The parser -/

/-- What `parse_options` has found so far, and how much of the frame it has
read. -/
structure ParsedOptions where
  msgType : UInt8
  pxeMode : PxeMode
  result : Bool
  reach : Nat
  deriving DecidableEq, Repr

def ParsedOptions.read (parsed : ParsedOptions) (offset : Nat) :
    ParsedOptions :=
  { parsed with reach := max parsed.reach offset }

def takeOption (frame : Frame) (i : Nat) (opType : UInt8) (opLen : Nat)
    (parsed : ParsedOptions) : ParsedOptions :=
  if opType = dhcpOptMessageType then
    -- the length is not looked at
    { parsed.read (i + 1) with msgType := frame.byteAt i, result := true }
  else if opType = dhcpOptUserClass then
    if opLen = userClassText.length then
      if frame.bytesAt i opLen = userClassText then
        { parsed.read (i + opLen) with pxeMode := .http }
      else parsed.read (i + opLen)
    else parsed
  else if opType = dhcpOptVendorClassId then
    if vendorClassText.length ≤ opLen then
      if vendorClassText <:+: frame.bytesAt i opLen then
        { parsed.read (i + opLen) with pxeMode := .tftp }
      else parsed.read (i + opLen)
    else parsed
  else parsed

/-- The loop of `parse_options`.  Behind a PAD it goes on by the length of the
last option. -/
def parseOptionsFrom (frame : Frame) (i opLen : Nat) (parsed : ParsedOptions) :
    ParsedOptions :=
  if i < frame.data.length then
    if frame.byteAt i = dhcpOptPad then
      parseOptionsFrom frame (i + 1 + opLen) opLen (parsed.read (i + 1))
    else if frame.byteAt i = dhcpOptEnd then parsed.read (i + 1)
    else if frame.data.length ≤ i + 1 then { parsed.read (i + 1) with result := false }
    else if frame.data.length < i + 2 + (frame.byteAt (i + 1)).toNat then
      { parsed.read (i + 2) with result := false }
    else
      parseOptionsFrom frame (i + 2 + (frame.byteAt (i + 1)).toNat) (frame.byteAt (i + 1)).toNat
        (takeOption frame (i + 2) (frame.byteAt i)
          (frame.byteAt (i + 1)).toNat (parsed.read (i + 2)))
  else parsed
termination_by frame.data.length - i

/-- The options of a frame, with the mode that is kept from the last packet. -/
def parseOptions (frame : Frame) (pxeMode : PxeMode) : ParsedOptions :=
  parseOptionsFrom frame optionsAt 0
    { msgType := 0, pxeMode, result := false, reach := 0 }

/-! ## The reference -/

structure DhcpOption where
  type : UInt8
  value : List UInt8
  following : List UInt8
  deriving DecidableEq, Repr

def splitOptions (bytes : List UInt8) : Option (List DhcpOption) :=
  match bytes with
  | [] => some []
  | type :: rest =>
    if type = dhcpOptPad then
      splitOptions rest
    else if type = dhcpOptEnd then some []
    else
      match rest with
      | [] => none
      | length :: rest =>
        if length.toNat ≤ rest.length then
          (splitOptions (rest.drop length.toNat)).map
            (⟨type, rest.take length.toNat, rest.drop length.toNat⟩ :: ·)
        else none
termination_by bytes.length
decreasing_by
  · simp
  · simp only [List.length_cons, List.length_drop]
    omega

namespace DhcpOption

def pxeMode (mode : PxeMode) (option : DhcpOption) : PxeMode :=
  if option.type = dhcpOptUserClass ∧ option.value = userClassText then .http
  else if option.type = dhcpOptVendorClassId ∧ vendorClassText <:+: option.value then .tftp
  else mode

def isMessageType (option : DhcpOption) : Bool :=
  option.type = dhcpOptMessageType

end DhcpOption

/-- What options say: the last type of the message, if there is one, and the
mode.  A message type without a value spoils the message. -/
def interpret (mode : PxeMode) (options : List DhcpOption) : Option (UInt8 × PxeMode) :=
  let types := options.filter DhcpOption.isMessageType
  if types.all fun option => !option.value.isEmpty then
    (types.getLast?.bind fun option => option.value.head?).map fun msgType =>
      (msgType, options.foldl DhcpOption.pxeMode mode)
  else none

/-- The reading of the options by RFC 2132. -/
def referenceParse (mode : PxeMode) (bytes : List UInt8) : Option (UInt8 × PxeMode) :=
  (splitOptions bytes).bind (interpret mode)

/-! ## What the loop sees -/

/-- The bytes without those that are jumped over, for a last option with
`last` bytes. -/
def seen (last : Nat) (bytes : List UInt8) : List UInt8 :=
  match bytes with
  | [] => []
  | type :: rest =>
    if type = dhcpOptPad then type :: seen last (rest.drop last)
    else if type = dhcpOptEnd then type :: rest
    else
      match rest with
      | [] => [type]
      | length :: rest =>
        if length.toNat ≤ rest.length then
          type :: length :: (rest.take length.toNat ++ seen length.toNat (rest.drop length.toNat))
        else type :: length :: rest
termination_by bytes.length
decreasing_by
  · simp only [List.length_cons, List.length_drop]
    omega
  · simp only [List.length_cons, List.length_drop]
    omega

theorem seen_head? (last : Nat) (bytes : List UInt8) : (seen last bytes).head? = bytes.head? := by
  fun_cases seen last bytes <;> rfl

section Seen

variable (last : Nat) {type length : UInt8} {rest : List UInt8}

theorem splitOptions_seen_nil : splitOptions (seen last []) = some [] := by
  simp [seen, splitOptions]

theorem splitOptions_seen_pad : splitOptions (seen last (dhcpOptPad :: rest)) =
      splitOptions (seen last (rest.drop last)) := by
  rw [seen.eq_def]
  simp only [if_true]
  rw [splitOptions.eq_def]
  simp only [if_true]

theorem splitOptions_seen_end : splitOptions (seen last (dhcpOptEnd :: rest)) = some [] := by
  have different : dhcpOptEnd ≠ dhcpOptPad := by decide
  rw [seen.eq_def]
  simp only [different, if_false, if_true]
  rw [splitOptions.eq_def]
  simp only [different, if_false, if_true]

section Records

variable (noPad : type ≠ dhcpOptPad) (noEnd : type ≠ dhcpOptEnd)

include noPad noEnd

theorem splitOptions_seen_single : splitOptions (seen last [type]) = none := by
  simp [seen, splitOptions, noPad, noEnd]

theorem splitOptions_seen_short (short : rest.length < length.toNat) :
    splitOptions (seen last (type :: length :: rest)) = none := by
  simp [seen, splitOptions, noPad, noEnd, Nat.not_le.mpr short]

theorem splitOptions_seen_option (fits : length.toNat ≤ rest.length) :
    splitOptions (seen last (type :: length :: rest)) =
      (splitOptions (seen length.toNat (rest.drop length.toNat))).map
        (⟨type, rest.take length.toNat, seen length.toNat (rest.drop length.toNat)⟩ :: ·) := by
  have whole : (rest.take length.toNat).length = length.toNat := List.length_take_of_le fits
  rw [seen.eq_def, splitOptions.eq_def]
  simp only [noPad, noEnd, if_false, fits, if_true, List.length_append, whole, Nat.le_add_right]
  rw [List.take_left' whole, List.drop_left' whole]

end Records

end Seen

/-! ## What the loop computes -/

namespace DhcpOption

/-- The byte that is taken for a message type, which is not one of the value
if the value is empty. -/
def typeByte? (option : DhcpOption) : Option UInt8 :=
  (option.value ++ option.following).head?

/-- The message type after an option; `stale` is the byte behind the
options. -/
def msgType (stale : UInt8) (last : UInt8) (option : DhcpOption) : UInt8 :=
  if option.isMessageType then option.typeByte?.getD stale else last

end DhcpOption

structure ReadAs
    (frame : Frame) (options : List DhcpOption)
    (before after : ParsedOptions) : Prop where
  msgType : after.msgType = options.foldl (DhcpOption.msgType (frame.stale 0)) before.msgType
  pxeMode : after.pxeMode = options.foldl DhcpOption.pxeMode before.pxeMode
  result : after.result = (before.result || options.any DhcpOption.isMessageType)
  inside : after.reach ≤ frame.data.length ↔ before.reach ≤ frame.data.length ∧
        ∀ option ∈ options, option.isMessageType = true → option.typeByte? ≠ none

namespace ReadAs

variable {frame : Frame} {before between after : ParsedOptions}

theorem read {offset : Nat} (covered : offset ≤ frame.data.length) (parsed : ParsedOptions) :
    ReadAs frame [] parsed (parsed.read offset) := by
  refine ⟨rfl, rfl, by simp [ParsedOptions.read], ?_⟩
  simp [ParsedOptions.read, covered]

theorem append {first second : List DhcpOption} (reads : ReadAs frame first before between)
    (rereads : ReadAs frame second between after) :
    ReadAs frame (first ++ second) before after := by
  constructor
  · rw [rereads.msgType, reads.msgType, List.foldl_append]
  · rw [rereads.pxeMode, reads.pxeMode, List.foldl_append]
  · rw [rereads.result, reads.result, List.any_append, Bool.or_assoc]
  · rw [rereads.inside, reads.inside, List.forall_mem_append, and_assoc]

end ReadAs

section Loop

variable (frame : Frame)

theorem drop_eq_byteAt_cons {i : Nat} (inside : i < frame.data.length) :
    frame.data.drop i = frame.byteAt i :: frame.data.drop (i + 1) := by
  rw [Frame.byteAt, dif_pos inside, List.drop_eq_getElem_cons inside]
  rfl

/-- The byte behind a length is one of the value or of what follows, or the
first one behind the frame. -/
theorem byteAt_eq_headD {i : Nat} (covered : i ≤ frame.data.length) :
    frame.byteAt i = (frame.data.drop i).head?.getD (frame.stale 0) := by
  rcases Nat.lt_or_eq_of_le covered with inside | last
  · rw [drop_eq_byteAt_cons frame inside]
    rfl
  · subst last
    simp [Frame.byteAt]

/-- The option whose value is at `i`, with what the loop will see behind it. -/
def optionAt (i : Nat) (opType : UInt8) (opLen : Nat) : DhcpOption where
  type := opType
  value := (frame.data.drop i).take opLen
  following := seen opLen (frame.data.drop (i + opLen))

theorem optionAt_typeByte? (i : Nat) (opType : UInt8) (opLen : Nat) :
    (optionAt frame i opType opLen).typeByte? = (frame.data.drop i).head? := by
  rw [DhcpOption.typeByte?, optionAt, List.head?_append, seen_head?,
    ← List.head?_append, ← List.drop_drop, List.take_append_drop]

theorem readAs_of_class {option : DhcpOption} {before after : ParsedOptions}
    (noType : option.isMessageType = false) (msgType : after.msgType = before.msgType)
    (pxeMode : after.pxeMode = option.pxeMode before.pxeMode)
    (result : after.result = before.result)
    (inside : after.reach ≤ frame.data.length ↔ before.reach ≤ frame.data.length) :
    ReadAs frame [option] before after := by
  refine ⟨?_, pxeMode, ?_, ?_⟩
  · simp [DhcpOption.msgType, noType, msgType]
  · simp [noType, result]
  · simp [inside, noType]

theorem takeOption_readAs {i opLen : Nat} (opType : UInt8) (parsed : ParsedOptions)
    (covered : i + opLen ≤ frame.data.length) :
    ReadAs frame [optionAt frame i opType opLen] parsed
      (takeOption frame i opType opLen parsed) := by
  have value : frame.bytesAt i opLen = (optionAt frame i opType opLen).value :=
    Frame.bytesAt_eq covered
  have length : (optionAt frame i opType opLen).value.length = opLen := by
    rw [optionAt, List.length_take, List.length_drop]
    omega
  have reads : (parsed.read (i + opLen)).reach ≤ frame.data.length ↔
      parsed.reach ≤ frame.data.length := by
    simp [ParsedOptions.read, covered]
  have typeByte := optionAt_typeByte? frame i opType opLen
  have type : (optionAt frame i opType opLen).type = opType := rfl
  unfold takeOption
  rw [value]
  generalize optionAt frame i opType opLen = option at *
  subst type
  by_cases message : option.type = dhcpOptMessageType
  · have isType : option.isMessageType = true := decide_eq_true message
    have noUser : ¬ (option.type = dhcpOptUserClass ∧ option.value = userClassText) := by
      rw [message]
      exact fun both => absurd both.1 (by decide)
    have noVendor : ¬ (option.type = dhcpOptVendorClassId ∧ vendorClassText <:+: option.value) := by
      rw [message]
      exact fun both => absurd both.1 (by decide)
    rw [if_pos message]
    constructor
    · simp [DhcpOption.msgType, isType, typeByte,
        byteAt_eq_headD frame (Nat.le_of_add_right_le covered)]
    · simp [DhcpOption.pxeMode, noUser, noVendor, ParsedOptions.read]
    · simp [isType]
    · simp [ParsedOptions.read, isType, typeByte, Nat.succ_le_iff]
  have noType : option.isMessageType = false := decide_eq_false message
  rw [if_neg message]
  by_cases user : option.type = dhcpOptUserClass
  · have noVendor : ¬ (option.type = dhcpOptVendorClassId ∧ vendorClassText <:+: option.value) := by
      rw [user]
      exact fun both => absurd both.1 (by decide)
    rw [if_pos user]
    by_cases sameLength : opLen = userClassText.length
    · rw [if_pos sameLength]
      by_cases same : option.value = userClassText
      · rw [if_pos same]
        refine readAs_of_class frame noType rfl ?_ rfl reads
        rw [DhcpOption.pxeMode, if_pos ⟨user, same⟩]
      rw [if_neg same]
      refine readAs_of_class frame noType rfl ?_ rfl reads
      rw [DhcpOption.pxeMode, if_neg fun both => same both.2, if_neg noVendor]
      rfl
    rw [if_neg sameLength]
    refine readAs_of_class frame noType rfl ?_ rfl Iff.rfl
    rw [DhcpOption.pxeMode, if_neg, if_neg noVendor]
    exact fun both => sameLength (length.symm.trans (by rw [both.2]))
  have noUser : ¬ (option.type = dhcpOptUserClass ∧ option.value = userClassText) :=
    fun both => user both.1
  rw [if_neg user]
  by_cases vendor : option.type = dhcpOptVendorClassId
  · rw [if_pos vendor]
    by_cases long : vendorClassText.length ≤ opLen
    · rw [if_pos long]
      by_cases found : vendorClassText <:+: option.value
      · rw [if_pos found]
        refine readAs_of_class frame noType rfl ?_ rfl reads
        rw [DhcpOption.pxeMode, if_neg noUser, if_pos ⟨vendor, found⟩]
      rw [if_neg found]
      refine readAs_of_class frame noType rfl ?_ rfl reads
      rw [DhcpOption.pxeMode, if_neg noUser, if_neg fun both => found both.2]
      rfl
    rw [if_neg long]
    refine readAs_of_class frame noType rfl ?_ rfl Iff.rfl
    rw [DhcpOption.pxeMode, if_neg noUser, if_neg]
    exact fun both => long (length ▸ both.2.length_le)
  · rw [if_neg vendor]
    refine readAs_of_class frame noType rfl ?_ rfl Iff.rfl
    rw [DhcpOption.pxeMode, if_neg noUser, if_neg fun both => vendor both.1]

/-- What the loop makes of the rest of the options. -/
def Parses (options? : Option (List DhcpOption)) (before after : ParsedOptions) : Prop :=
  match options? with
  | none =>
    after.result = false ∧ (before.reach ≤ frame.data.length → after.reach ≤ frame.data.length)
  | some options => ReadAs frame options before after

theorem Parses.cons {option : DhcpOption} {rest? : Option (List DhcpOption)}
    {before between after : ParsedOptions} (taken : ReadAs frame [option] before between)
    (open' : rest? = none → option.typeByte? ≠ none) (parses : Parses frame rest? between after) :
    Parses frame (rest?.map (option :: ·)) before after := by
  cases rest? with
  | none =>
    refine ⟨parses.1, fun inside => parses.2 (taken.inside.mpr ⟨inside, ?_⟩)⟩
    intro other member _
    rw [List.mem_singleton.mp member]
    exact open' rfl
  | some options => exact taken.append parses

theorem Parses.read {options? : Option (List DhcpOption)} {before after : ParsedOptions}
    {offset : Nat} (covered : offset ≤ frame.data.length)
    (parses : Parses frame options? (before.read offset) after) :
    Parses frame options? before after := by
  have reads := ReadAs.read covered before
  cases options? with
  | none =>
    refine ⟨parses.1, fun inside => parses.2 (reads.inside.mpr ?_)⟩
    exact ⟨inside, nofun⟩
  | some options => exact reads.append parses

theorem parseOptionsFrom_parses (i last : Nat) (parsed : ParsedOptions) :
    Parses frame (splitOptions (seen last (frame.data.drop i))) parsed
      (parseOptionsFrom frame i last parsed) := by
  fun_induction parseOptionsFrom frame i last parsed with
  | case1 i last parsed inside pad ih =>
    rw [drop_eq_byteAt_cons frame inside, pad, splitOptions_seen_pad, List.drop_drop]
    exact Parses.read frame inside ih
  | case2 i last parsed inside noPad atEnd =>
    rw [drop_eq_byteAt_cons frame inside, atEnd, splitOptions_seen_end]
    exact ReadAs.read inside parsed
  | case3 i last parsed inside noPad noEnd short =>
    rw [drop_eq_byteAt_cons frame inside, List.drop_eq_nil_of_le short,
      splitOptions_seen_single last noPad noEnd]
    refine ⟨rfl, fun reached => ?_⟩
    exact Nat.max_le.mpr ⟨reached, inside⟩
  | case4 i last parsed inside noPad noEnd long short =>
    rw [drop_eq_byteAt_cons frame inside, drop_eq_byteAt_cons frame (Nat.lt_of_not_le long),
      splitOptions_seen_short last noPad noEnd]
    · refine ⟨rfl, fun reached => ?_⟩
      exact Nat.max_le.mpr ⟨reached, Nat.lt_of_not_le long⟩
    · rw [List.length_drop]
      omega
  | case5 i last parsed inside noPad noEnd long fits ih =>
    have covered : i + 2 + (frame.byteAt (i + 1)).toNat ≤ frame.data.length := Nat.le_of_not_lt fits
    rw [drop_eq_byteAt_cons frame inside, drop_eq_byteAt_cons frame (Nat.lt_of_not_le long),
      splitOptions_seen_option last noPad noEnd, List.drop_drop]
    · apply Parses.read frame (Nat.le_of_add_right_le covered)
      refine Parses.cons frame (takeOption_readAs frame _ _ covered) ?_ ih
      -- behind an option that is not the last one there are bytes
      intro malformed
      rw [DhcpOption.typeByte?]
      intro nothing
      rw [List.head?_eq_none_iff, List.append_eq_nil_iff] at nothing
      have empty :
          seen (frame.byteAt (i + 1)).toNat
            (frame.data.drop (i + 2 + (frame.byteAt (i + 1)).toNat)) = [] :=
        nothing.2
      rw [empty, splitOptions] at malformed
      cases malformed
    · rw [List.length_drop]
      omega
  | case6 i last parsed outside =>
    rw [List.drop_eq_nil_of_le (Nat.le_of_not_lt outside), splitOptions_seen_nil]
    exact ⟨rfl, rfl, by simp, by simp⟩

end Loop

/-! ## Agreement -/

/-- What the loop takes options to say.  The type of the message is the byte
behind the length, even if there is none. -/
def interpretLoosely (mode : PxeMode) (options : List DhcpOption) :
    Option (Option UInt8 × PxeMode) :=
  (options.filter DhcpOption.isMessageType).getLast?.map fun option =>
    (option.typeByte?, options.foldl DhcpOption.pxeMode mode)

def looseParse (mode : PxeMode) (bytes : List UInt8) : Option (Option UInt8 × PxeMode) :=
  (splitOptions (seen 0 bytes)).bind (interpretLoosely mode)

theorem getLast?_of_typeByte?_eq_none {bytes : List UInt8} {options : List DhcpOption}
    (split : splitOptions bytes = some options) {option : DhcpOption} (member : option ∈ options)
    (nothing : option.typeByte? = none) :
    options.getLast? = some option := by
  fun_induction splitOptions bytes generalizing options with
  | case1 =>
    cases split
    cases member
  | case2 rest ih => exact ih split member
  | case3 rest different =>
    cases split
    cases member
  | case4 => cases split
  | case5 type noPad noEnd length rest fits ih =>
    rw [Option.map_eq_some_iff] at split
    obtain ⟨others, split, rfl⟩ := split
    rcases List.mem_cons.mp member with first | later
    · subst first
      rw [DhcpOption.typeByte?, List.head?_eq_none_iff, List.append_eq_nil_iff] at nothing
      have empty : rest.drop length.toNat = [] := nothing.2
      rw [empty, splitOptions] at split
      cases split
      rfl
    have last := ih split later
    cases others with
    | nil => cases later
    | cons second others => exact last
  | case6 => cases split

theorem getLast?_filter_of_getLast? {items : List DhcpOption} {kind : DhcpOption → Bool}
    {item : DhcpOption} (last : items.getLast? = some item) (isKind : kind item = true) :
    (items.filter kind).getLast? = some item := by
  obtain ⟨front, rfl⟩ := List.getLast?_eq_some_iff.mp last
  rw [List.filter_append, List.filter_singleton, isKind]
  exact List.getLast?_concat

theorem foldl_msgType (stale last : UInt8) (options : List DhcpOption) :
    options.foldl (DhcpOption.msgType stale) last =
      ((options.filter DhcpOption.isMessageType).getLast?.map fun option =>
        option.typeByte?.getD stale).getD last := by
  induction options using List.reverseRecOn with
  | nil => rfl
  | append_singleton options option ih =>
    rw [List.foldl_append, List.foldl_cons, List.foldl_nil, ih, List.filter_append]
    cases type : option.isMessageType with
    | true => simp [DhcpOption.msgType, type]
    | false => simp [DhcpOption.msgType, type]

def ParsedOptions.message? (parsed : ParsedOptions) : Option (UInt8 × PxeMode) :=
  if parsed.result then some (parsed.msgType, parsed.pxeMode) else none

section Agreement

variable (frame : Frame) (mode : PxeMode)

def optionBytes : List UInt8 :=
  frame.data.drop optionsAt

theorem parseOptions_spec :
    match looseParse mode (optionBytes frame) with
    | none =>
      (parseOptions frame mode).message? = none ∧
        (parseOptions frame mode).reach ≤ frame.data.length
    | some (some msgType, pxeMode) =>
      (parseOptions frame mode).message? = some (msgType, pxeMode) ∧
        (parseOptions frame mode).reach ≤ frame.data.length
    | some (none, pxeMode) =>
      (parseOptions frame mode).message? = some (frame.stale 0, pxeMode) ∧
        frame.data.length < (parseOptions frame mode).reach := by
  have parses :=
    parseOptionsFrom_parses frame optionsAt 0
      { msgType := 0, pxeMode := mode, result := false, reach := 0 }
  change Parses frame _ _ (parseOptions frame mode) at parses
  unfold looseParse optionBytes
  cases split : splitOptions (seen 0 (frame.data.drop optionsAt)) with
  | none =>
    rw [split] at parses
    refine ⟨?_, parses.2 (Nat.zero_le _)⟩
    rw [ParsedOptions.message?, parses.1]
    rfl
  | some options => ?_
  rw [split] at parses
  have reads : ReadAs frame options _ _ := parses
  have msgType := reads.msgType
  have result := reads.result
  have inside := reads.inside
  rw [foldl_msgType] at msgType
  rw [Option.bind_some, interpretLoosely]
  cases last : (options.filter DhcpOption.isMessageType).getLast? with
  | none =>
    have noTypes : options.filter DhcpOption.isMessageType = [] :=
      List.getLast?_eq_none_iff.mp last
    rw [List.filter_eq_nil_iff] at noTypes
    have unfound : options.any DhcpOption.isMessageType = false := List.any_eq_false.mpr noTypes
    refine ⟨?_, inside.mpr ⟨Nat.zero_le _, ?_⟩⟩
    · rw [ParsedOptions.message?, result, unfound]
      rfl
    · intro option member isType
      exact absurd isType (noTypes option member)
  | some option =>
    have member := List.mem_of_getLast? last
    rw [List.mem_filter] at member
    have found : (parseOptions frame mode).result = true := by
      rw [result, List.any_eq_true.mpr ⟨option, member⟩]
      rfl
    rw [last] at msgType
    rw [Option.map_some]
    cases byte : option.typeByte? with
    | none =>
      rw [Option.map_some, Option.getD_some, byte, Option.getD_none] at msgType
      refine ⟨?_, Nat.lt_of_not_le fun covered => ?_⟩
      · rw [ParsedOptions.message?, found, msgType, reads.pxeMode]
        rfl
      · exact (inside.mp covered).2 option member.1 member.2 byte
    | some value => ?_
    rw [Option.map_some, Option.getD_some, byte, Option.getD_some] at msgType
    refine ⟨?_, inside.mpr ⟨Nat.zero_le _, ?_⟩⟩
    · rw [ParsedOptions.message?, found, msgType, reads.pxeMode]
      rfl
    -- an option without a byte is the last message type as well
    intro other otherMember isType nothing
    have ends := getLast?_of_typeByte?_eq_none split otherMember nothing
    have same := getLast?_filter_of_getLast? ends isType
    rw [last, Option.some_inj] at same
    rw [same, nothing] at byte
    cases byte

/-- The parser stays inside the frame and finds what the reference finds. -/
def Faithful : Prop :=
  (parseOptions frame mode).reach ≤ frame.data.length ∧
    (parseOptions frame mode).message? = referenceParse mode (optionBytes frame)

def frameWithOptions (options : List UInt8) : Frame where
  data := List.replicate optionsAt 0 ++ options
  stale := fun _ => 0
  headroom := 0
  packetType := 0
  olFlags := 0
  txOffload := ⟨0, 0, 0, 0, 0⟩

def paddedOptions : List UInt8 :=
  [dhcpOptMessageType, 1, 1, dhcpOptPad, dhcpOptUserClass, 4] ++ userClassText ++ [dhcpOptEnd]

end Agreement

theorem foldl_pxeMode (mode : PxeMode) (options : List DhcpOption) :
    options.foldl DhcpOption.pxeMode mode =
      if options.foldl DhcpOption.pxeMode .none = .none then mode
      else options.foldl DhcpOption.pxeMode .none := by
  induction options using List.reverseRecOn with
  | nil => rfl
  | append_singleton options option ih =>
    simp only [List.foldl_append, List.foldl_cons, List.foldl_nil]
    rw [ih]
    generalize options.foldl DhcpOption.pxeMode .none = last
    unfold DhcpOption.pxeMode
    split
    · rfl
    split
    · rfl
    · rfl

theorem looseParse_mode (mode : PxeMode) (bytes : List UInt8) : looseParse mode bytes =
      (looseParse .none bytes).map fun found =>
        (found.1, if found.2 = .none then mode else found.2) := by
  unfold looseParse
  cases splitOptions (seen 0 bytes) with
  | none => rfl
  | some options =>
    rw [Option.bind_some, Option.bind_some, interpretLoosely,
      interpretLoosely, Option.map_map, foldl_pxeMode]
    rfl

end DpService.Dhcp
