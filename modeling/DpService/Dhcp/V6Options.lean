import DpService.Dhcp.Server

/-!
# DHCPv6 options

The options of a DHCPv6 message are records with a code and a length of two
bytes each.  The loop of the code looks at none that starts in the last four
bytes, lets a record end up to four bytes behind the message, and compares
classes with bytes at fixed places behind the header of a record, whatever its
length.
-/

namespace DpService.Dhcp

open Foundations Packet Dataplane

variable {bytes : List UInt8}

def dhcpv6OptClientid : UInt16 := 1
def dhcpv6OptServerid : UInt16 := 2
def dhcpv6OptIaNa : UInt16 := 3
def dhcpv6OptStatusCode : UInt16 := 13
def dhcpv6OptRapidCommit : UInt16 := 14
def dhcpv6OptUserClass : UInt16 := 15
def dhcpv6OptVendorClass : UInt16 := 16
def dhcpv6OptDns : UInt16 := 23
def dhcpv6OptBootFile : UInt16 := 59

def options6At : Nat := 66

/-! ## The parser -/

/-- `struct dp_dhcpv6_reply_options`: what is put into a reply. -/
structure ReplyOptions6 where
  clientId : Option (List UInt8)
  iaid : Option (List UInt8)
  rapid : Bool
  bootFile : Option (List UInt8)
  deriving DecidableEq, Repr

def ReplyOptions6.empty : ReplyOptions6 where
  clientId := none
  iaid := none
  rapid := false
  bootFile := none

inductive ParseStatus where
  | ok
  | error
  | abort
  deriving DecidableEq, Repr

/-- What `parse_options` has found so far, and how much of the frame it has
read. -/
structure Parsed6 where
  reply : ReplyOptions6
  status : ParseStatus
  reach : Nat
  deriving DecidableEq, Repr

def Parsed6.read (parsed : Parsed6) (offset : Nat) : Parsed6 :=
  { parsed with reach := max parsed.reach offset }

def Parsed6.fail (parsed : Parsed6) : Parsed6 :=
  { parsed with status := .error }

/-- `dp_fill_boot_file_option`; an assertion fails for an address that is not
IPv6. -/
def dpFillBootFileOption (conf : DhcpConf) (iface : DhcpIface) (scheme suffix : List UInt8)
    (parsed : Parsed6) : Parsed6 :=
  match iface.pxeIp with
  | .v4 _ => { parsed with status := .abort }
  | .v6 _ =>
    { parsed with
      reply :=
        { parsed.reply with
          bootFile :=
            some (scheme ++ ascii "://[" ++ conf.ipText iface.pxeIp ++ ascii "]/" ++ suffix) } }

/-- An identifier that is too long for the reply, an `IA_NA` that is too short
and a rapid commit that is not empty. -/
def refused (opCode : UInt16) (opLen : Nat) : Bool :=
  (opCode = dhcpv6OptClientid && 128 < opLen) || (opCode = dhcpv6OptIaNa && opLen < 12) ||
    (opCode = dhcpv6OptRapidCommit && opLen ≠ 0)

/-- Two bytes read as they stand, on a little-endian host. -/
def Frame.le16At (frame : Frame) (offset : Nat) : Nat :=
  (frame.byteAt offset).toNat + 256 * (frame.byteAt (offset + 1)).toNat

def takeVendorClass (conf : DhcpConf) (iface : DhcpIface) (frame : Frame) (i opLen : Nat)
    (parsed : Parsed6) : Parsed6 :=
  let parsed := parsed.read (i + 10)
  if vendorClassText.length ≤ Frame.le16At frame (i + 8) then
    let parsed := parsed.read (i + 10 + opLen)
    if vendorClassText <:+: frame.bytesAt (i + 10) opLen then
      dpFillBootFileOption conf iface (ascii "tftp") pxeTftpPath parsed
    else parsed
  else parsed

def takeUserClass (conf : DhcpConf) (iface : DhcpIface) (frame : Frame) (i : Nat)
    (parsed : Parsed6) : Parsed6 :=
  let parsed := parsed.read (i + 6)
  if (frame.be16At (i + 4)).toNat = userClassText.length then
    let parsed := parsed.read (i + 6 + userClassText.length)
    if frame.bytesAt (i + 6) userClassText.length = userClassText then
      dpFillBootFileOption conf iface (ascii "http") iface.pxeStr parsed
    else parsed
  else parsed

def takeOption6 (conf : DhcpConf) (iface : DhcpIface) (frame : Frame) (i : Nat)
    (opCode : UInt16) (opLen : Nat) (parsed : Parsed6) : Parsed6 :=
  if refused opCode opLen then parsed.fail
  else if opCode = dhcpv6OptClientid then
    let parsed := parsed.read (i + 4 + opLen)
    { parsed with reply := { parsed.reply with clientId := some (frame.bytesAt (i + 4) opLen) } }
  else if opCode = dhcpv6OptIaNa then
    let parsed := parsed.read (i + 8)
    { parsed with reply := { parsed.reply with iaid := some (frame.bytesAt (i + 4) 4) } }
  else if opCode = dhcpv6OptRapidCommit then
    { parsed with reply := { parsed.reply with rapid := true } }
  else if opCode = dhcpv6OptVendorClass then takeVendorClass conf iface frame i opLen parsed
  else if opCode = dhcpv6OptUserClass then takeUserClass conf iface frame i parsed
  else parsed

def parseOptions6From (conf : DhcpConf) (iface : DhcpIface) (frame : Frame) (i : Nat)
    (parsed : Parsed6) : Parsed6 :=
  if i + 4 < frame.data.length then
    let opCode := frame.be16At i
    let opLen := (frame.be16At (i + 2)).toNat
    let parsed := parsed.read (i + 4)
    if frame.data.length < i + opLen then parsed.fail
    else
      let parsed := takeOption6 conf iface frame i opCode opLen parsed
      if parsed.status = .ok then parseOptions6From conf iface frame (i + 4 + opLen) parsed
      else parsed
  else parsed
termination_by frame.data.length - i

def parseOptions6 (conf : DhcpConf) (iface : DhcpIface) (frame : Frame) : Parsed6 :=
  parseOptions6From conf iface frame options6At
    { reply := ReplyOptions6.empty, status := .ok, reach := 0 }

/-! ## The options of a reply -/

def infinity : List UInt8 :=
  [255, 255, 255, 255]

def iaNaValue (iface : DhcpIface) (iaid : List UInt8) : List UInt8 :=
  iaid ++ infinity ++ infinity ++ [0, 5, 0, 30] ++ iface.ownIpv6.toBytes ++
    infinity ++ infinity ++ [0, 13, 0, 2, 0, 0]

def replyOptions6 (conf : DhcpConf) (iface : DhcpIface) (client : List UInt8)
    (reply : ReplyOptions6) : List (UInt16 × List UInt8) :=
  [(dhcpv6OptServerid, [0, 3, 0xab, 0xcd] ++ client)] ++
    (reply.clientId.map fun id => (dhcpv6OptClientid, id)).toList ++
    (reply.iaid.map fun iaid => (dhcpv6OptIaNa, iaNaValue iface iaid)).toList ++
    (if reply.rapid then [(dhcpv6OptRapidCommit, [])] else []) ++ [(dhcpv6OptDns, conf.dns6)] ++
    (reply.bootFile.map fun url => (dhcpv6OptBootFile, url)).toList

structure Contents where
  clientId : Bool
  iaNa : Bool
  rapid : Bool
  bootFile : Bool
  deriving DecidableEq, Repr

def contents (codes : List UInt16) : Contents where
  clientId := dhcpv6OptClientid ∈ codes
  iaNa := dhcpv6OptIaNa ∈ codes
  rapid := dhcpv6OptRapidCommit ∈ codes
  bootFile := dhcpv6OptBootFile ∈ codes

def ReplyOptions6.contents (reply : ReplyOptions6) : Contents where
  clientId := reply.clientId.isSome
  iaNa := reply.iaid.isSome
  rapid := reply.rapid
  bootFile := reply.bootFile.isSome

attribute [local simp] dhcpv6OptClientid dhcpv6OptServerid dhcpv6OptIaNa
  dhcpv6OptRapidCommit dhcpv6OptDns dhcpv6OptBootFile in
theorem contents_replyOptions6 (conf : DhcpConf) (iface : DhcpIface) (client : List UInt8)
    (reply : ReplyOptions6) :
    contents ((replyOptions6 conf iface client reply).map Prod.fst) = reply.contents := by
  obtain ⟨clientId, iaid, rapid, bootFile⟩ := reply
  simp only [contents, ReplyOptions6.contents, Contents.mk.injEq]
  refine ⟨?_, ?_, ?_, ?_⟩
  · cases clientId <;> cases rapid <;> simp [replyOptions6]
  · cases iaid <;> cases rapid <;> simp [replyOptions6]
  · cases rapid <;> simp [replyOptions6]
  · cases bootFile <;> cases rapid <;> simp [replyOptions6]

/-! ## The reference -/

structure Piece where
  code : UInt16
  value : List UInt8
  following : List UInt8
  deriving DecidableEq, Repr

/-- The complete options at the front of a sequence of bytes, and the rest. -/
def cutOptions (bytes : List UInt8) : List Piece × List UInt8 :=
  match bytes with
  | c :: d :: k :: l :: behind =>
    let length := (beNat [k, l]).toUInt16.toNat
    if length ≤ behind.length then
      let others := cutOptions (behind.drop length)
      (⟨(beNat [c, d]).toUInt16, behind.take length, behind.drop length⟩ :: others.1, others.2)
    else ([], bytes)
  | _ => ([], bytes)
termination_by bytes.length
decreasing_by
  simp only [List.length_cons, List.length_drop]
  omega

namespace Piece

def isBootClass (piece : Piece) : Bool :=
  if piece.code = dhcpv6OptVendorClass then
    match piece.value with
    | _ :: _ :: _ :: _ :: k :: l :: vendorData =>
      vendorClassText <:+: vendorData.take (beNat [k, l])
    | _ => false
  else if piece.code = dhcpv6OptUserClass then
    match piece.value with
    | k :: l :: userClass =>
      beNat [k, l] = userClassText.length && userClass.take userClassText.length = userClassText
    | _ => false
  else false

end Piece

/-- What a reply should have for the options of a request. -/
def demanded (pieces : List Piece) : Contents where
  clientId := pieces.any fun piece => piece.code = dhcpv6OptClientid
  iaNa := pieces.any fun piece => piece.code = dhcpv6OptIaNa
  rapid := pieces.any fun piece => piece.code = dhcpv6OptRapidCommit
  bootFile := pieces.any Piece.isBootClass

inductive Reading where
  | wrong
  | rejected
  | accepted (contents : Contents)
  deriving DecidableEq, Repr

/-- Complete options with values that can be used are accepted, and everything
else is rejected. -/
def referenceReading (bytes : List UInt8) : Reading :=
  if (cutOptions bytes).2 = [] ∧
      ((cutOptions bytes).1.all fun piece => !refused piece.code piece.value.length) then
    .accepted (demanded (cutOptions bytes).1)
  else .rejected

/-! ## What the loop sees -/

/-- Whether the class of a vendor is found in the bytes behind a header, unless
they are too few.  The length of the vendor's data is read in the wrong order of
bytes, and the text is searched in as many bytes as the whole option has. -/
def looseVendorClass (behind : List UInt8) (opLen : Nat) : Option Bool :=
  match behind with
  | _ :: _ :: _ :: _ :: k :: l :: more =>
    if vendorClassText.length ≤ k.toNat + 256 * l.toNat then
      if opLen ≤ more.length then some (vendorClassText <:+: more.take opLen)
      else none
    else some false
  | _ => none

/-- Whether the class of a user is found in the bytes behind a header, unless
they are too few. -/
def looseUserClass (behind : List UInt8) : Option Bool :=
  match behind with
  | k :: l :: more =>
    if (beNat [k, l]).toUInt16.toNat = userClassText.length then
      if userClassText.length ≤ more.length then
        some (more.take userClassText.length = userClassText)
      else none
    else some false
  | _ => none

namespace Piece

def behind (piece : Piece) : List UInt8 :=
  piece.value ++ piece.following

/-- Whether the code takes the option for the class of a client that boots over
the network. -/
def looseClass (piece : Piece) : Option Bool :=
  if piece.code = dhcpv6OptVendorClass then looseVendorClass piece.behind piece.value.length
  else if piece.code = dhcpv6OptUserClass then looseUserClass piece.behind
  else some false

end Piece

def Contents.note (noted : Contents) (piece : Piece) (boots : Bool) : Contents where
  clientId := noted.clientId || piece.code = dhcpv6OptClientid
  iaNa := noted.iaNa || piece.code = dhcpv6OptIaNa
  rapid := noted.rapid || piece.code = dhcpv6OptRapidCommit
  bootFile := noted.bootFile || boots

/-- What is left behind the last complete option.  Up to four bytes are not
looked at, and an option may be up to four bytes too long. -/
def readRest (rest : List UInt8) (noted : Contents) : Reading :=
  match rest with
  | c :: d :: k :: l :: _ :: _ =>
    let length := (beNat [k, l]).toUInt16.toNat
    if rest.length < length ∨ refused (beNat [c, d]).toUInt16 length then .rejected
    else .wrong
  | _ => .accepted noted

/-- How the code reads options.  The flag tells whether the interface has an
IPv6 address for booting, which is asserted for a class that is found. -/
def readPieces (pxeV6 : Bool) (rest : List UInt8) : List Piece → Contents → Reading
  | [], noted => readRest rest noted
  | piece :: pieces, noted =>
    if piece.behind = [] then .accepted noted
    else if refused piece.code piece.value.length then .rejected
    else
      match piece.looseClass with
      | none => .wrong
      | some boots =>
        if boots && !pxeV6 then .wrong
        else readPieces pxeV6 rest pieces (noted.note piece boots)

def looseReading (pxeV6 : Bool) (bytes : List UInt8) : Reading :=
  readPieces pxeV6 (cutOptions bytes).2 (cutOptions bytes).1 ReplyOptions6.empty.contents

def isV6 : IpAddress → Bool
  | .v4 _ => false
  | .v6 _ => true

def DhcpIface.pxeV6 (iface : DhcpIface) : Bool :=
  isV6 iface.pxeIp

/-! ## What the loop computes -/

section Loop

variable (conf : DhcpConf) (iface : DhcpIface) (frame : Frame)

theorem reach_le_read (parsed : Parsed6) (offset : Nat) :
    parsed.reach ≤ (parsed.read offset).reach :=
  Nat.le_max_left ..

theorem reach_dpFillBootFileOption (scheme suffix : List UInt8) (parsed : Parsed6) :
    (dpFillBootFileOption conf iface scheme suffix parsed).reach = parsed.reach := by
  unfold dpFillBootFileOption
  split
  · rfl
  · rfl

theorem reach_le_takeVendorClass (i opLen : Nat) (parsed : Parsed6) : (parsed.read (i + 10)).reach ≤
      (takeVendorClass conf iface frame i opLen parsed).reach := by
  unfold takeVendorClass
  dsimp only
  split
  · split
    · rw [reach_dpFillBootFileOption]
      exact reach_le_read _ _
    · exact reach_le_read _ _
  · exact Nat.le_refl _

theorem reach_le_takeUserClass (i : Nat) (parsed : Parsed6) : (parsed.read (i + 6)).reach ≤
      (takeUserClass conf iface frame i parsed).reach := by
  unfold takeUserClass
  dsimp only
  split
  · split
    · rw [reach_dpFillBootFileOption]
      exact reach_le_read _ _
    · exact reach_le_read _ _
  · exact Nat.le_refl _

theorem reach_le_takeOption6 (i : Nat) (opCode : UInt16) (opLen : Nat) (parsed : Parsed6) :
    parsed.reach ≤ (takeOption6 conf iface frame i opCode opLen parsed).reach := by
  have reads := reach_le_read parsed
  have vendor := reach_le_takeVendorClass conf iface frame i opLen parsed
  have user := reach_le_takeUserClass conf iface frame i parsed
  unfold takeOption6
  split
  · exact Nat.le_refl _
  split
  · exact reads _
  split
  · exact reads _
  split
  · exact Nat.le_refl _
  split
  · exact Nat.le_trans (reads _) vendor
  split
  · exact Nat.le_trans (reads _) user
  · exact Nat.le_refl _

theorem reach_le_parseOptions6From (i : Nat) (parsed : Parsed6) :
    parsed.reach ≤ (parseOptions6From conf iface frame i parsed).reach := by
  fun_induction parseOptions6From conf iface frame i parsed with
  | case1 i parsed inside opLen read long =>
    exact reach_le_read parsed _
  | case2 i parsed inside opCode opLen read fits taken ok ih =>
    exact
      Nat.le_trans (reach_le_read parsed _)
        (Nat.le_trans (reach_le_takeOption6 conf iface frame ..) ih)
  | case3 i parsed inside opCode opLen read fits taken failed =>
    exact Nat.le_trans (reach_le_read parsed _) (reach_le_takeOption6 conf iface frame ..)
  | case4 i parsed outside => exact Nat.le_refl _

def Takes (piece : Piece) (before after : Parsed6) : Prop :=
  match piece.looseClass with
  | none => frame.data.length < after.reach
  | some boots =>
    after.reach ≤ frame.data.length ∧
      if boots && !iface.pxeV6 then after.status = .abort
      else after.status = .ok ∧ after.reply.contents = before.reply.contents.note piece boots

theorem takes_of_boots {piece : Piece} {before parsed : Parsed6} (scheme suffix : List UInt8)
    (class? : piece.looseClass = some true) (ok : parsed.status = .ok)
    (inside : parsed.reach ≤ frame.data.length) (kept : parsed.reply = before.reply)
    (noClient : piece.code ≠ dhcpv6OptClientid) (noIaNa : piece.code ≠ dhcpv6OptIaNa)
    (noRapid : piece.code ≠ dhcpv6OptRapidCommit) :
    Takes iface frame piece before (dpFillBootFileOption conf iface scheme suffix parsed) := by
  rw [Takes, class?]
  refine ⟨?_, ?_⟩
  · rw [reach_dpFillBootFileOption]
    exact inside
  unfold dpFillBootFileOption DhcpIface.pxeV6
  cases iface.pxeIp with
  | v4 _ => rfl
  | v6 _ =>
    refine ⟨ok, ?_⟩
    simp [ReplyOptions6.contents, Contents.note, kept, noClient, noIaNa, noRapid]

theorem takes_of_plain {piece : Piece} {before after : Parsed6}
    (class? : piece.looseClass = some false)
    (ok : after.status = .ok) (inside : after.reach ≤ frame.data.length)
    (noted : after.reply.contents = before.reply.contents.note piece false) :
    Takes iface frame piece before after := by
  rw [Takes, class?]
  exact ⟨inside, ok, noted⟩

theorem byteAt_of_drop {offset : Nat} {byte : UInt8} {more : List UInt8}
    (layout : frame.data.drop offset = byte :: more) :
    frame.byteAt offset = byte ∧ frame.data.drop (offset + 1) = more := by
  have inside : offset < frame.data.length := by
    have length := congrArg List.length layout
    rw [List.length_drop, List.length_cons] at length
    omega
  rw [drop_eq_byteAt_cons frame inside] at layout
  exact ⟨(List.cons.inj layout).1, (List.cons.inj layout).2⟩

theorem bytesAt_of_drop {offset : Nat} (layout : frame.data.drop offset = bytes) {count : Nat}
    (fits : count ≤ bytes.length) (covered : offset ≤ frame.data.length) :
    frame.bytesAt offset count = bytes.take count := by
  have length := congrArg List.length layout
  rw [List.length_drop] at length
  rw [Frame.bytesAt_eq (by omega), layout]

theorem length_lt_six
    (few : ∀ a b c d k l more, bytes = a :: b :: c :: d :: k :: l :: more → False) :
    bytes.length < 6 := by
  match bytes with
  | [] | [_] | [_, _] | [_, _, _] | [_, _, _, _] | [_, _, _, _, _] => simp
  | _ :: _ :: _ :: _ :: _ :: _ :: _ => exact (few _ _ _ _ _ _ _ rfl).elim

theorem length_lt_two (few : ∀ k l more, bytes = k :: l :: more → False) : bytes.length < 2 := by
  match bytes with
  | [] | [_] => simp
  | _ :: _ :: _ => exact (few _ _ _ rfl).elim

section Classes

variable {i : Nat} {piece : Piece} {parsed : Parsed6}
variable (ok : parsed.status = .ok)
variable (inside : parsed.reach ≤ frame.data.length)
variable (covered : i + 4 ≤ frame.data.length)
variable (layout : frame.data.drop (i + 4) = piece.behind)

include ok inside covered layout

theorem takeVendorClass_takes (vendor : piece.code = dhcpv6OptVendorClass) :
    Takes iface frame piece parsed
      (takeVendorClass conf iface frame i piece.value.length parsed) := by
  have length := congrArg List.length layout
  rw [List.length_drop] at length
  have codes : dhcpv6OptVendorClass ≠ dhcpv6OptClientid ∧
        dhcpv6OptVendorClass ≠ dhcpv6OptIaNa ∧ dhcpv6OptVendorClass ≠ dhcpv6OptRapidCommit := by
    decide
  have noted : parsed.reply.contents = parsed.reply.contents.note piece false := by
    simp [Contents.note, vendor, codes]
  have reads := reach_le_takeVendorClass conf iface frame i piece.value.length parsed
  have class? : piece.looseClass = looseVendorClass piece.behind piece.value.length := if_pos vendor
  unfold looseVendorClass at class?
  split at class?
  · rename_i a b c d k l more behind
    rw [behind] at layout length
    have first := (byteAt_of_drop frame layout).2
    have second := (byteAt_of_drop frame first).2
    have third := (byteAt_of_drop frame second).2
    have fourth := (byteAt_of_drop frame third).2
    have low := byteAt_of_drop frame fourth
    have high := byteAt_of_drop frame low.2
    have raw : Frame.le16At frame (i + 8) = k.toNat + 256 * l.toNat := by
      rw [Frame.le16At, low.1, high.1]
    have data : frame.data.drop (i + 10) = more := high.2
    simp only [List.length_cons] at length
    unfold takeVendorClass
    dsimp only
    rw [raw]
    split at class?
    · rename_i long
      rw [if_pos long]
      split at class?
      · rename_i fits
        have bytes : frame.bytesAt (i + 10) piece.value.length = more.take piece.value.length :=
          bytesAt_of_drop frame data fits (by omega)
        have rereads :
            ((parsed.read (i + 10)).read
              (i + 10 + piece.value.length)).reach ≤ frame.data.length := by
          simp only [Parsed6.read]
          omega
        rw [bytes]
        by_cases found : vendorClassText <:+: more.take piece.value.length
        · rw [if_pos found]
          exact
            takes_of_boots conf iface frame _ _ (by rw [class?]; simp [found])
              ok rereads rfl (vendor ▸ codes.1) (vendor ▸ codes.2.1)
              (vendor ▸ codes.2.2)
        · rw [if_neg found]
          exact takes_of_plain iface frame (by rw [class?]; simp [found]) ok rereads noted
      rename_i outside
      have beyond : frame.data.length <
            ((parsed.read (i + 10)).read (i + 10 + piece.value.length)).reach := by
        simp only [Parsed6.read]
        omega
      rw [Takes, class?]
      dsimp only
      split
      · rw [reach_dpFillBootFileOption]
        exact beyond
      · exact beyond
    rename_i short
    rw [if_neg short]
    refine takes_of_plain iface frame class? ok ?_ noted
    simp only [Parsed6.read]
    omega
  rename_i few
  have short : piece.behind.length < 6 := length_lt_six few
  have beyond : frame.data.length < (parsed.read (i + 10)).reach := by
    simp only [Parsed6.read]
    omega
  rw [Takes, class?]
  exact Nat.lt_of_lt_of_le beyond reads

theorem takeUserClass_takes (noVendor : piece.code ≠ dhcpv6OptVendorClass)
    (user : piece.code = dhcpv6OptUserClass) :
    Takes iface frame piece parsed (takeUserClass conf iface frame i parsed) := by
  have length := congrArg List.length layout
  rw [List.length_drop] at length
  have codes : dhcpv6OptUserClass ≠ dhcpv6OptClientid ∧
        dhcpv6OptUserClass ≠ dhcpv6OptIaNa ∧ dhcpv6OptUserClass ≠ dhcpv6OptRapidCommit := by
    decide
  have noted : parsed.reply.contents = parsed.reply.contents.note piece false := by
    simp [Contents.note, user, codes]
  have reads := reach_le_takeUserClass conf iface frame i parsed
  have class? : piece.looseClass = looseUserClass piece.behind := by
    rw [Piece.looseClass, if_neg noVendor, if_pos user]
  unfold looseUserClass at class?
  split at class?
  · rename_i k l more behind
    rw [behind] at layout length
    have high := byteAt_of_drop frame layout
    have low := byteAt_of_drop frame high.2
    have raw : frame.be16At (i + 4) = (beNat [k, l]).toUInt16 := by
      rw [Frame.be16At, bytesAt_of_drop frame layout (by simp) covered]
      rfl
    have data : frame.data.drop (i + 6) = more := low.2
    simp only [List.length_cons] at length
    unfold takeUserClass
    dsimp only
    rw [raw]
    split at class?
    · rename_i same
      rw [if_pos same]
      split at class?
      · rename_i fits
        have bytes : frame.bytesAt (i + 6) userClassText.length = more.take userClassText.length :=
          bytesAt_of_drop frame data fits (by omega)
        have rereads :
            ((parsed.read (i + 6)).read
              (i + 6 + userClassText.length)).reach ≤ frame.data.length := by
          simp only [Parsed6.read]
          omega
        rw [bytes]
        by_cases found : more.take userClassText.length = userClassText
        · rw [if_pos found]
          exact
            takes_of_boots conf iface frame _ _ (by rw [class?]; simp [found])
              ok rereads rfl (user ▸ codes.1) (user ▸ codes.2.1)
              (user ▸ codes.2.2)
        · rw [if_neg found]
          exact takes_of_plain iface frame (by rw [class?]; simp [found]) ok rereads noted
      rename_i outside
      have beyond : frame.data.length <
            ((parsed.read (i + 6)).read (i + 6 + userClassText.length)).reach := by
        simp only [Parsed6.read]
        omega
      rw [Takes, class?]
      dsimp only
      split
      · rw [reach_dpFillBootFileOption]
        exact beyond
      · exact beyond
    rename_i other
    rw [if_neg other]
    refine takes_of_plain iface frame class? ok ?_ noted
    simp only [Parsed6.read]
    omega
  rename_i few
  have short : piece.behind.length < 2 := length_lt_two few
  have beyond : frame.data.length < (parsed.read (i + 6)).reach := by
    simp only [Parsed6.read]
    omega
  rw [Takes, class?]
  exact Nat.lt_of_lt_of_le beyond reads

theorem takeOption6_takes (accepted : refused piece.code piece.value.length = false) :
    Takes iface frame piece parsed
      (takeOption6 conf iface frame i piece.code piece.value.length parsed) := by
  have length := congrArg List.length layout
  rw [List.length_drop, Piece.behind, List.length_append] at length
  unfold takeOption6
  rw [accepted, if_neg Bool.false_ne_true]
  by_cases client : piece.code = dhcpv6OptClientid
  · rw [if_pos client]
    have class? : piece.looseClass = some false := by
      rw [Piece.looseClass, client]
      rfl
    refine takes_of_plain iface frame class? ok ?_ ?_
    · simp only [Parsed6.read]
      omega
    · rw [Contents.note, client]
      simp [ReplyOptions6.contents, dhcpv6OptClientid, dhcpv6OptIaNa,
        dhcpv6OptRapidCommit, Parsed6.read]
  rw [if_neg client]
  by_cases iaNa : piece.code = dhcpv6OptIaNa
  · rw [if_pos iaNa]
    have class? : piece.looseClass = some false := by
      rw [Piece.looseClass, iaNa]
      rfl
    have long : 12 ≤ piece.value.length := by
      simp only [refused, iaNa, Bool.or_eq_false_iff] at accepted
      simpa using accepted.1.2
    refine takes_of_plain iface frame class? ok ?_ ?_
    · simp only [Parsed6.read]
      omega
    · rw [Contents.note, iaNa]
      simp [ReplyOptions6.contents, dhcpv6OptClientid, dhcpv6OptIaNa,
        dhcpv6OptRapidCommit, Parsed6.read]
  rw [if_neg iaNa]
  by_cases rapid : piece.code = dhcpv6OptRapidCommit
  · rw [if_pos rapid]
    have class? : piece.looseClass = some false := by
      rw [Piece.looseClass, rapid]
      rfl
    refine takes_of_plain iface frame class? ok inside ?_
    rw [Contents.note, rapid]
    simp [ReplyOptions6.contents, dhcpv6OptClientid, dhcpv6OptIaNa, dhcpv6OptRapidCommit]
  rw [if_neg rapid]
  by_cases vendor : piece.code = dhcpv6OptVendorClass
  · rw [if_pos vendor]
    exact takeVendorClass_takes conf iface frame ok inside covered layout vendor
  rw [if_neg vendor]
  by_cases user : piece.code = dhcpv6OptUserClass
  · rw [if_pos user]
    exact takeUserClass_takes conf iface frame ok inside covered layout vendor user
  rw [if_neg user]
  have class? : piece.looseClass = some false := by
    rw [Piece.looseClass, if_neg vendor, if_neg user]
  refine takes_of_plain iface frame class? ok inside ?_
  simp [Contents.note, client, iaNa, rapid]

end Classes

def Reads (rest : List UInt8) (reading : Reading) (after : Parsed6) : Prop :=
  match reading with
  | .wrong =>
    frame.data.length < after.reach ∨ after.status = .abort ∨ (after.status = .ok ∧ rest ≠ [])
  | .rejected => after.reach ≤ frame.data.length ∧ after.status = .error
  | .accepted contents =>
    after.reach ≤ frame.data.length ∧ after.status = .ok ∧ after.reply.contents = contents

theorem header_of_drop {i : Nat} (inside : i + 4 < frame.data.length) : ∃ c d k l next more,
      frame.data.drop i = c :: d :: k :: l :: next :: more ∧
        frame.data.drop (i + 4) = next :: more ∧ frame.be16At i = (beNat [c, d]).toUInt16 ∧
        frame.be16At (i + 2) = (beNat [k, l]).toUInt16 := by
  have header := @drop_eq_byteAt_cons frame
  have whole := header (show i < frame.data.length by omega)
  have second := header (show i + 1 < frame.data.length by omega)
  have third := header (show i + 2 < frame.data.length by omega)
  have fourth := header (show i + 3 < frame.data.length by omega)
  have next := header inside
  rw [second, third, fourth, next] at whole
  refine ⟨_, _, _, _, _, _, whole, next, rfl, rfl⟩

theorem takeOption6_of_refused {i opLen : Nat} {opCode : UInt16} (parsed : Parsed6)
    (refuses : refused opCode opLen = true) :
    takeOption6 conf iface frame i opCode opLen parsed = parsed.fail := by
  rw [takeOption6, if_pos refuses]

theorem takeOption6_status {i opLen : Nat} {opCode : UInt16} {parsed : Parsed6}
    (accepted : refused opCode opLen = false) (ok : parsed.status = .ok) :
    (takeOption6 conf iface frame i opCode opLen parsed).status = .ok ∨
      ((takeOption6 conf iface frame i opCode opLen parsed).status = .abort ∧
        iface.pxeV6 = false) := by
  have fills (scheme suffix : List UInt8) (parsed : Parsed6) (ok : parsed.status = .ok) :
      (dpFillBootFileOption conf iface scheme suffix parsed).status = .ok ∨
        ((dpFillBootFileOption conf iface scheme suffix parsed).status = .abort ∧
          iface.pxeV6 = false) := by
    unfold dpFillBootFileOption DhcpIface.pxeV6
    cases iface.pxeIp with
    | v4 _ => exact Or.inr ⟨rfl, rfl⟩
    | v6 _ => exact Or.inl ok
  unfold takeOption6
  rw [accepted, if_neg Bool.false_ne_true]
  split
  · exact Or.inl ok
  split
  · exact Or.inl ok
  split
  · exact Or.inl ok
  split
  · unfold takeVendorClass
    dsimp only
    split
    · split
      · exact fills _ _ _ ok
      · exact Or.inl ok
    · exact Or.inl ok
  split
  · unfold takeUserClass
    dsimp only
    split
    · split
      · exact fills _ _ _ ok
      · exact Or.inl ok
    · exact Or.inl ok
  · exact Or.inl ok

theorem parseOptions6From_of_outside
    {i : Nat} (outside : ¬ i + 4 < frame.data.length) (parsed : Parsed6) :
    parseOptions6From conf iface frame i parsed = parsed := by
  rw [parseOptions6From, if_neg outside]

section Cuts

variable {c d k l : UInt8} {behind : List UInt8}

def headerLength (k l : UInt8) : Nat :=
  (beNat [k, l]).toUInt16.toNat

theorem cutOptions_of_fits (fits : headerLength k l ≤ behind.length) :
    cutOptions (c :: d :: k :: l :: behind) =
      (⟨(beNat [c, d]).toUInt16, behind.take (headerLength k l), behind.drop (headerLength k l)⟩ ::
          (cutOptions (behind.drop (headerLength k l))).1,
        (cutOptions (behind.drop (headerLength k l))).2) := by
  rw [cutOptions]
  exact if_pos fits

theorem cutOptions_of_long (long : behind.length < headerLength k l) :
    cutOptions (c :: d :: k :: l :: behind) = ([], c :: d :: k :: l :: behind) := by
  rw [cutOptions]
  exact if_neg (Nat.not_le.mpr long)

theorem readPieces_of_few (pxeV6 : Bool) (few : bytes.length ≤ 4) (noted : Contents) :
    readPieces pxeV6 (cutOptions bytes).2 (cutOptions bytes).1 noted = .accepted noted := by
  match bytes with
  | [] | [_] | [_, _] | [_, _, _] =>
    rw [cutOptions]
    · rfl
    · exact nofun
  | [c, d, k, l] =>
    by_cases empty : headerLength k l ≤ ([] : List UInt8).length
    · rw [cutOptions_of_fits empty]
      simp [readPieces, Piece.behind]
    · rw [cutOptions_of_long (Nat.lt_of_not_le empty)]
      rfl
  | _ :: _ :: _ :: _ :: _ :: _ =>
    simp only [List.length_cons] at few
    omega

end Cuts

theorem readRest_of_long {c d k l next : UInt8} {more : List UInt8} (noted : Contents) :
    readRest (c :: d :: k :: l :: next :: more) noted =
      if (c :: d :: k :: l :: next :: more).length < headerLength k l ∨
          refused (beNat [c, d]).toUInt16 (headerLength k l) then
        .rejected
      else .wrong :=
  rfl

theorem reads_of_takes (before : Parsed6) {piece : Piece} {pieces : List Piece}
    {rest : List UInt8} {between after : Parsed6}
    (nonempty : piece.behind ≠ [])
    (inside : before.reach ≤ frame.data.length)
    (fails : refused piece.code piece.value.length = true → between = before.fail)
    (takes : refused piece.code piece.value.length = false → Takes iface frame piece before between)
    (grows : between.reach ≤ after.reach)
    (stops : between.status ≠ .ok → after = between)
    (continues : between.status = .ok → between.reach ≤ frame.data.length →
      Reads frame rest (readPieces iface.pxeV6 rest pieces between.reply.contents) after) :
    Reads frame rest
      (readPieces iface.pxeV6 rest (piece :: pieces) before.reply.contents)
      after := by
  rw [readPieces, if_neg nonempty]
  cases refuses : refused piece.code piece.value.length with
  | true =>
    have failed := fails refuses
    rw [stops (by rw [failed]; exact nofun), failed]
    exact ⟨inside, rfl⟩
  | false => ?_
  have took := takes refuses
  rw [Takes] at took
  rw [if_neg Bool.false_ne_true]
  cases class? : piece.looseClass with
  | none =>
    rw [class?] at took
    exact Or.inl (Nat.lt_of_lt_of_le took grows)
  | some boots => ?_
  rw [class?] at took
  obtain ⟨reached, outcome⟩ := took
  dsimp only
  cases aborts : boots && !iface.pxeV6 with
  | true =>
    rw [aborts, if_pos rfl] at outcome
    rw [if_pos rfl, stops (by rw [outcome]; exact nofun)]
    exact Or.inr (Or.inl outcome)
  | false =>
    rw [aborts, if_neg Bool.false_ne_true] at outcome
    rw [if_neg Bool.false_ne_true, ← outcome.2]
    exact continues outcome.1 reached

theorem parseOptions6From_reads (i : Nat) (parsed : Parsed6) (ok : parsed.status = .ok)
    (inside : parsed.reach ≤ frame.data.length) :
    Reads frame (cutOptions (frame.data.drop i)).2
      (readPieces iface.pxeV6 (cutOptions (frame.data.drop i)).2
        (cutOptions (frame.data.drop i)).1 parsed.reply.contents)
      (parseOptions6From conf iface frame i parsed) := by
  induction room : frame.data.length - i using Nat.strongRecOn generalizing i parsed with
  | ind room ih =>
    by_cases covered : i + 4 < frame.data.length
    · obtain ⟨c, d, k, l, next, more, bytes, behind, code, length⟩ :=
        header_of_drop frame covered
      have opLen : (frame.be16At (i + 2)).toNat = headerLength k l := congrArg UInt16.toNat length
      have total := congrArg List.length bytes
      simp only [List.length_drop, List.length_cons] at total
      have reread : (parsed.read (i + 4)).reach ≤ frame.data.length := by
        simp only [Parsed6.read]
        omega
      rw [parseOptions6From, if_pos covered]
      dsimp only
      rw [opLen, code, bytes]
      by_cases long : frame.data.length < i + headerLength k l
      · rw [if_pos long, cutOptions_of_long, readPieces, readRest_of_long, if_pos]
        · exact ⟨reread, rfl⟩
        · left
          simp only [List.length_cons]
          omega
        · simp only [List.length_cons]
          omega
      rw [if_neg long]
      by_cases fits : headerLength k l ≤ (next :: more).length
      · have whole :
            (⟨(beNat [c, d]).toUInt16, (next :: more).take (headerLength k l),
              (next :: more).drop (headerLength k l)⟩ : Piece).behind =
                next :: more :=
          List.take_append_drop ..
        have size : ((next :: more).take (headerLength k l)).length = headerLength k l :=
          List.length_take_of_le fits
        rw [cutOptions_of_fits fits]
        refine
          reads_of_takes iface frame (parsed.read (i + 4)) ?_ reread ?_ ?_
            ?_ (fun stops => if_neg stops) ?_
        · rw [whole]
          exact nofun
        · intro refuses
          rw [size] at refuses
          exact takeOption6_of_refused conf iface frame _ refuses
        · intro accepts
          have takes :=
            @takeOption6_takes conf iface frame i _ (parsed.read (i + 4))
              ok reread (Nat.le_of_lt covered) (behind.trans whole.symm)
              accepts
          rw [size] at takes
          exact takes
        · split
          · exact reach_le_parseOptions6From conf iface frame ..
          · exact Nat.le_refl _
        intro continues reached
        rw [if_pos continues]
        have rest := ih _ ?_ (i + 4 + headerLength k l) _ continues reached rfl
        · rw [← List.drop_drop, behind] at rest
          exact rest
        · omega
      rw [cutOptions_of_long (Nat.lt_of_not_le fits), readPieces, readRest_of_long]
      have short : ¬ (c :: d :: k :: l :: next :: more).length < headerLength k l := by
        simp only [List.length_cons]
        omega
      simp only [short, false_or]
      cases refuses : refused (beNat [c, d]).toUInt16 (headerLength k l) with
      | true =>
        have failed : (parsed.read (i + 4)).fail.status ≠ .ok := nofun
        rw [if_pos rfl, takeOption6_of_refused conf iface frame _ refuses, if_neg failed]
        exact ⟨reread, rfl⟩
      | false => ?_
      rw [if_neg Bool.false_ne_true]
      -- the option is taken although it is not complete
      have status := @takeOption6_status conf iface frame i _ _ (parsed.read (i + 4)) refuses ok
      rcases status with accepted | ⟨aborted, -⟩
      · rw [if_pos accepted, parseOptions6From_of_outside]
        · exact Or.inr (Or.inr ⟨accepted, nofun⟩)
        · simp only [List.length_cons] at fits
          omega
      · rw [if_neg (by rw [aborted]; exact nofun)]
        exact Or.inr (Or.inl aborted)
    have few : (frame.data.drop i).length ≤ 4 := by
      rw [List.length_drop]
      omega
    rw [readPieces_of_few iface.pxeV6 few, parseOptions6From_of_outside conf iface frame covered]
    exact ⟨inside, ok, rfl⟩

/-! ## Agreement -/

def optionBytes6 : List UInt8 :=
  frame.data.drop options6At

/-- The parser reads nothing but the frame, rejects what the reference rejects,
and otherwise has the options in its reply that are demanded. -/
def Understands (client : List UInt8) : Prop :=
  (parseOptions6 conf iface frame).reach ≤ frame.data.length ∧
    match referenceReading (optionBytes6 frame) with
    | .wrong => False
    | .rejected => (parseOptions6 conf iface frame).status = .error
    | .accepted demands =>
      (parseOptions6 conf iface frame).status = .ok ∧
        contents
            ((replyOptions6 conf iface client
              (parseOptions6 conf iface frame).reply).map Prod.fst) =
          demands

theorem parseOptions6_reads :
    Reads frame (cutOptions (optionBytes6 frame)).2 (looseReading iface.pxeV6 (optionBytes6 frame))
      (parseOptions6 conf iface frame) :=
  parseOptions6From_reads conf iface frame options6At
    { reply := ReplyOptions6.empty, status := .ok, reach := 0 } rfl
    (Nat.zero_le _)

theorem referenceReading_of_rest (incomplete : (cutOptions bytes).2 ≠ []) :
    referenceReading bytes = .rejected :=
  if_neg fun both => incomplete both.1

theorem referenceReading_ne_wrong (bytes : List UInt8) : referenceReading bytes ≠ .wrong := by
  rw [referenceReading]
  split
  · exact nofun
  · exact nofun

end Loop

def frameWithOptions6 (options : List UInt8) : Frame :=
  { frameWithOptions [] with
    data := List.replicate options6At 0 ++ options }

end DpService.Dhcp
