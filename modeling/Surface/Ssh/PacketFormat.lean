import Surface.Ssh.Packet
import Surface.Ssh.KexinitFormat

/-!
# Surface.Ssh.PacketFormat

The reader of packets cannot panic, stays within the declared packet, and accepts exactly the
well-formed packets; what the client writes is one of them.

* `packetBytes`, `ValidPacket`: the format.
* `serverPayload_safe`: every end of the reader, the failures included.
* `reads_serverPayload`: the reader accepts the format and nothing else.
* `packetFraming`: both, with the packets of the client.
-/

namespace Surface

namespace ByteStream

def pointer : Pointer ByteStream UInt8 where
  items stream := stream.bytes
  position stream := stream.position
  position_le stream := stream.position_le
  move stream n h := { stream with position := n, position_le := h }
  items_move _ _ _ := rfl
  position_move _ _ _ := rfl
  move_position _ := rfl
  move_move _ _ _ _ _ _ := rfl

def feed : Feed ByteStream UInt8 := pointer.feed

/-! ## The steps as exact readers -/

theorem reads_readExact (buffer : ByteSlice) (message : ProtocolError) :
    Reads feed (readExact buffer message) fun (packet : ByteSlice) w _ =>
      w.length = buffer.bytes.length ∧ packet.bytes = w := by
  refine pointer.reads_next (V := fun w packet => packet.bytes = w)
    (fun w a b ha hb => ByteSlice.ext (ha.trans hb.symm)) ?_ ?_
  · intro stream h
    have hfits : stream.position + buffer.bytes.length ≤ stream.bytes.length := h
    refine ⟨⟨_, Nat.lt_of_le_of_lt (List.length_take_le ..) buffer.length_lt⟩, rfl, ?_⟩
    rw [readExact, Reader.outcome_mk, dif_pos hfits]
    rfl
  · intro stream h
    have hshort : ¬ stream.position + buffer.bytes.length ≤ stream.bytes.length := h
    exact ⟨_, _, by rw [readExact, Reader.outcome_mk, dif_neg hshort]⟩

theorem reads_allocate (length : Nat) :
    Reads feed (allocate length) fun (buffer : ByteSlice) w _ =>
      (length < 2 ^ 63 ∧ buffer.bytes = List.replicate length 0) ∧ w = [] := by
  unfold allocate
  by_cases h : length < 2 ^ 63
  · rw [dif_pos h]
    exact (reads_pure _).congr fun _ _ _ =>
      and_congr_left fun _ => ByteSlice.ext_iff.trans (and_iff_right h).symm
  · rw [dif_neg h]
    exact (reads_throw _).congr fun _ _ _ => iff_of_false id fun hall => h hall.1.1

theorem reads_index (packet : ByteSlice) (i : Nat) :
    Reads feed (index packet i) fun byte w _ => packet.bytes[i]? = some byte ∧ w = [] := by
  unfold index
  cases h : packet.bytes[i]? with
  | none => exact (reads_throw _).congr fun _ _ _ => by simp
  | some byte => exact (reads_pure byte).congr fun _ _ _ => by simp [eq_comm]

theorem reads_subtract (a b : Nat) :
    Reads feed (subtract a b) fun n w _ => (b ≤ a ∧ n = a - b) ∧ w = [] :=
  reads_assert

theorem reads_slice (packet : ByteSlice) (start stop : Nat) :
    Reads feed (slice packet start stop) fun (part : ByteSlice) w _ =>
      ((start ≤ stop ∧ stop ≤ packet.bytes.length) ∧
        part.bytes = (packet.bytes.take stop).drop start) ∧ w = [] :=
  reads_assert.congr fun _ _ _ => and_congr_left fun _ => and_congr_right fun _ => ByteSlice.ext_iff

end ByteStream

/-! ## The format -/

/-- A packet: its length, the length of the padding, the payload and the padding. -/
def packetBytes (payload padding : List UInt8) : List UInt8 :=
  u32ToBeBytes (1 + payload.length + padding.length) ++
    UInt8.ofNat padding.length :: payload ++ padding

/-- The lengths a packet may have. -/
structure ValidPacket (payload padding : List UInt8) : Prop where
  length_ge : 12 ≤ 1 + payload.length + padding.length
  length_le : 1 + payload.length + padding.length ≤ maxPacketLengthFieldValue
  aligned : (1 + payload.length + padding.length + 4) % 8 = 0
  padding_ge : 4 ≤ padding.length
  padding_lt : padding.length < 2 ^ 8
  payload_ne : payload ≠ []

namespace ByteStream

theorem u32ToBeBytes_declaredLength {encoded : List UInt8} (h : encoded.length = 4) :
    u32ToBeBytes (declaredLength encoded) = encoded := by
  match encoded, h with
  | [a, b, c, d], _ => exact u32ToBeBytes_fromBeBytes a b c d

theorem declaredLength_u32ToBeBytes {n : Nat} (h : n < 2 ^ 32) :
    declaredLength (u32ToBeBytes n) = n :=
  u32FromBeBytes_toBeBytes h

/-- The packet behind the length field falls into its three parts. -/
theorem packet_split {packet : List UInt8} {byte : UInt8} (hbyte : packet[0]? = some byte)
    (hpadding : byte.toNat + 1 < packet.length) :
    packet = byte :: (packet.take (packet.length - byte.toNat)).drop 1 ++
      packet.drop (packet.length - byte.toNat) := by
  cases packet with
  | nil => cases hbyte
  | cons head tail =>
    have hhead : head = byte := Option.some.inj hbyte
    subst hhead
    rw [List.length_cons] at hpadding ⊢
    have hsucc : tail.length + 1 - head.toNat = (tail.length - head.toNat) + 1 := by omega
    rw [hsucc, List.take_succ_cons, List.drop_succ_cons, List.drop_succ_cons, List.drop_zero,
      List.cons_append, List.take_append_drop]

/-- What passes the checks of the reader consists of a payload and a padding of valid lengths. -/
theorem validPacket_split {packet payload : List UInt8} {byte : UInt8}
    (hbyte : packet[0]? = some byte) (hmax : packet.length ≤ maxPacketLengthFieldValue)
    (haligned : (packet.length + 4) % 8 = 0) (hfour : 4 ≤ byte.toNat)
    (hlimit : byte.toNat + 1 < packet.length)
    (hpayload : payload = (packet.take (packet.length - byte.toNat)).drop 1) :
    ∃ padding, ValidPacket payload padding ∧
      packetBytes payload padding = u32ToBeBytes packet.length ++ packet := by
  have hsplit := packet_split hbyte hlimit
  rw [← hpayload] at hsplit
  generalize hpadding : packet.drop (packet.length - byte.toNat) = padding at hsplit
  have hpad : padding.length = byte.toNat := by
    rw [← hpadding, List.length_drop]
    omega
  have htotal : 1 + payload.length + padding.length = packet.length := by
    rw [hsplit, List.length_append, List.length_cons]
    omega
  refine ⟨padding, ⟨?_, ?_, ?_, ?_, ?_, ?_⟩, ?_⟩
  -- twelve is the first aligned length with room for the padding and a payload
  · omega
  · omega
  · omega
  · omega
  · rw [hpad]
    exact byte.toNat_lt
  · intro hnil
    rw [hnil, List.length_nil] at htotal
    omega
  · rw [packetBytes, htotal, hpad, UInt8.ofNat_toNat, List.append_assoc, ← hsplit]

theorem reads_serverPayload :
    Reads feed serverPayload fun (payload : ByteSlice) w _ =>
      ∃ padding, ValidPacket payload.bytes padding ∧ w = packetBytes payload.bytes padding := by
  refine ((reads_readExact _ _).bind fun encodedLength => Reads.guard fun _ => Reads.guard fun _ =>
    (reads_allocate _).bind fun buffer => (reads_readExact buffer _).bind fun packet =>
      (reads_index packet 0).bind fun paddingByte => Reads.guard fun _ =>
        (reads_subtract _ 1).bind fun limit => Reads.guard fun _ =>
          (reads_subtract _ paddingByte.toNat).bind fun payloadEnd =>
            reads_slice packet 1 payloadEnd).congr (fun payload w v => ?_)
  constructor
  · rintro ⟨encodedLength, _, _, rfl, ⟨hencoded, rfl⟩, hmax, hmin, buffer, _, _, rfl,
      ⟨⟨_, hbuffer⟩, rfl⟩, packet, _, _, rfl, ⟨hpacket, rfl⟩, byte, _, _, rfl, ⟨hbyte, rfl⟩, hfour,
      limit, _, _, rfl, ⟨⟨_, rfl⟩, rfl⟩, hlimit, payloadEnd, _, _, rfl, ⟨⟨_, rfl⟩, rfl⟩,
      ⟨_, hpayload⟩, rfl⟩
    rw [hbuffer, List.length_replicate] at hpacket
    rw [← hpacket] at hmax hmin hlimit hpayload
    obtain ⟨padding, hvalid, hbytes⟩ := validPacket_split hbyte (by omega) (by omega) (by omega)
      (by omega) hpayload
    refine ⟨padding, hvalid, ?_⟩
    rw [hbytes, hpacket, u32ToBeBytes_declaredLength hencoded]
    simp
  · rintro ⟨padding, hvalid, rfl⟩
    obtain ⟨hmin, hmax, haligned, hfour, hbyte, hne⟩ := hvalid
    have hpayload : 0 < payload.bytes.length := List.length_pos_iff.mpr hne
    generalize htotal : 1 + payload.bytes.length + padding.length = total at *
    have hmax' : total ≤ 34996 := hmax
    have hdeclared : declaredLength (u32ToBeBytes total) = total :=
      declaredLength_u32ToBeBytes (by omega)
    have hpad : (UInt8.ofNat padding.length).toNat = padding.length := by
      rw [UInt8.toNat_ofNat']
      omega
    have hpacket : (UInt8.ofNat padding.length :: payload.bytes ++ padding).length = total := by
      rw [List.length_append, List.length_cons]
      omega
    have hw : packetBytes payload.bytes padding = u32ToBeBytes total ++
        (UInt8.ofNat padding.length :: payload.bytes ++ padding) := by
      rw [packetBytes, htotal, List.append_assoc]
    refine ⟨⟨u32ToBeBytes total, show 4 < 2 ^ 63 by decide⟩, u32ToBeBytes total, _, hw,
      ⟨rfl, rfl⟩, ?_, ?_,
      ⟨List.replicate total 0, by rw [List.length_replicate]; omega⟩, [], _, rfl, ?_,
      ⟨UInt8.ofNat padding.length :: payload.bytes ++ padding, by rw [hpacket]; omega⟩, _, [],
      (List.append_nil _).symm, ?_, UInt8.ofNat padding.length, [], _, rfl, ⟨rfl, rfl⟩, ?_,
      total - 1, [], _, rfl, ?_, ?_, total - padding.length, [], [], rfl, ?_, ?_⟩
    · rw [hdeclared]
      omega
    · rw [hdeclared]
      omega
    · rw [hdeclared]
      exact ⟨⟨by omega, rfl⟩, rfl⟩
    · exact ⟨by rw [List.length_replicate]; exact hpacket, rfl⟩
    · omega
    · rw [hdeclared]
      exact ⟨⟨by omega, rfl⟩, rfl⟩
    · omega
    · rw [hdeclared, hpad]
      exact ⟨⟨by omega, rfl⟩, rfl⟩
    · have hstop : total - padding.length = payload.bytes.length + 1 := by omega
      refine ⟨⟨⟨by omega, by rw [hpacket]; omega⟩, ?_⟩, rfl⟩
      rw [hstop]
      show payload.bytes = ((UInt8.ofNat padding.length :: (payload.bytes ++ padding)).take
        (payload.bytes.length + 1)).drop 1
      rw [List.take_succ_cons, List.drop_succ_cons, List.drop_zero, List.take_left]

/-! ## Every end of the reader -/

variable {stream : ByteStream}

theorem ends_readExact {buffer : ByteSlice} {message : ProtocolError}
    {post : Except ReadFailure ByteSlice → ByteStream → Prop}
    (hok : ∀ (packet : ByteSlice) (t : ByteStream),
      packet.bytes = (stream.bytes.drop stream.position).take buffer.bytes.length →
      packet.bytes.length = buffer.bytes.length → t.bytes = stream.bytes →
      t.position = stream.position + buffer.bytes.length → post (.ok packet) t)
    (herror : ∀ t : ByteStream, t.position = stream.bytes.length →
      stream.bytes.length < stream.position + buffer.bytes.length →
        post (.error (.protocol message)) t) :
    Reader.Ends (readExact buffer message) stream post := by
  unfold Reader.Ends
  rw [readExact, Reader.outcome_mk]
  split
  · refine hok _ _ rfl ?_ rfl rfl
    rw [List.length_take, List.length_drop]
    omega
  · rename_i hshort
    exact herror _ rfl (Nat.not_le.mp hshort)

/-- The reader does not panic and reads nothing behind the declared packet. -/
def ReadsWithin {α : Type} (bytes : List UInt8) (r : Except ReadFailure α) (t : ByteStream) :
    Prop :=
  r ≠ .error .panic ∧ t.position ≤ 4 + declaredLength (bytes.take 4)

theorem serverPayload_safe (bytes : List UInt8) :
    Reader.Ends serverPayload (new bytes) (ReadsWithin bytes) := by
  have hprotocol : ∀ {message : ProtocolError} {t : ByteStream},
      t.position ≤ 4 + declaredLength (bytes.take 4) →
        ReadsWithin (α := ByteSlice) bytes (.error (.protocol message)) t :=
    fun hposition => ⟨nofun, hposition⟩
  have hok : ∀ {packet : ByteSlice} {t : ByteStream},
      t.position ≤ 4 + declaredLength (bytes.take 4) → ReadsWithin bytes (.ok packet) t :=
    fun hposition => ⟨nofun, hposition⟩
  unfold serverPayload
  refine Reader.ends_bind (fun encodedLength t => encodedLength.bytes = bytes.take 4 ∧
    t.bytes = bytes ∧ t.position = 4) (ends_readExact (fun encodedLength t hencoded _ hbytes
      hposition => ⟨hencoded, hbytes, hposition⟩) (fun t hposition hshort => ?_)) ?_
  · have hlength : bytes.length < 4 := hshort
    have hend : t.position = bytes.length := hposition
    exact hprotocol (by omega)
  rintro encodedLength t ⟨hencoded, hbytes, hposition⟩
  rw [hencoded]
  refine Reader.ends_guard (fun _ => hprotocol (by omega)) (fun hmax => ?_)
  refine Reader.ends_guard (fun _ => hprotocol (by omega)) (fun hmin => ?_)
  generalize declaredLength (bytes.take 4) = total at *
  have hmax' : total ≤ 34996 := Nat.not_lt.mp hmax
  refine Reader.ends_bind (fun buffer u => buffer.bytes.length = total ∧ u = t) ?_ ?_
  · rw [allocate, dif_pos (by omega)]
    exact Reader.ends_pure ⟨List.length_replicate, rfl⟩
  rintro buffer u ⟨hbuffer, rfl⟩
  refine Reader.ends_bind (fun packet v => packet.bytes.length = total ∧ v.position = 4 + total)
    (ends_readExact (fun packet v _ hlength _ hread => ⟨hlength.trans hbuffer, by omega⟩)
      (fun v hread hshort => hprotocol (by omega))) ?_
  rintro packet v ⟨hpacket, hread⟩
  have hwithin : v.position ≤ 4 + total := Nat.le_of_eq hread
  refine Reader.ends_bind (fun _ w => w = v) ?_ ?_
  · have hfound : packet.bytes[0]? = some packet.bytes[0] := List.getElem?_eq_getElem (by omega)
    rw [index, hfound]
    exact Reader.ends_pure rfl
  rintro paddingByte w rfl
  refine Reader.ends_guard (fun _ => hprotocol hwithin) (fun hfour => ?_)
  refine Reader.ends_bind (fun limit u => limit = total - 1 ∧ u = w) ?_ ?_
  · rw [subtract, if_pos (by omega)]
    exact Reader.ends_pure ⟨rfl, rfl⟩
  rintro limit u ⟨rfl, rfl⟩
  refine Reader.ends_guard (fun _ => hprotocol hwithin) (fun hlimit => ?_)
  refine Reader.ends_bind (fun payloadEnd w => payloadEnd = total - paddingByte.toNat ∧ w = u) ?_ ?_
  · rw [subtract, if_pos (by omega)]
    exact Reader.ends_pure ⟨rfl, rfl⟩
  rintro payloadEnd w ⟨rfl, rfl⟩
  rw [slice, if_pos ⟨by omega, by omega⟩]
  exact Reader.ends_pure (hok hwithin)

/-- The parser neither reads from the stream nor panics. -/
theorem readServerKexinit_safe (bytes : List UInt8) :
    Reader.Ends readServerKexinit (new bytes) (ReadsWithin bytes) := by
  unfold readServerKexinit
  refine Reader.ends_bind (fun _ t => t.position ≤ 4 + declaredLength (bytes.take 4))
    ((serverPayload_safe bytes).mono (fun r t h => ?_)) ?_
  · cases r with
    | ok payload => exact h.2
    | error error => exact ⟨fun heq => h.1 (by cases heq; rfl), h.2⟩
  · intro payload t hposition
    cases parseKexinit payload with
    | ok kexinit => exact Reader.ends_pure ⟨nofun, hposition⟩
    | error error => exact Reader.ends_throw ⟨nofun, hposition⟩

end ByteStream

/-! ## The packets of the client -/

theorem paddingLength_bounds (n : Nat) : 4 ≤ paddingLength n ∧ paddingLength n ≤ 11 := by
  simp only [paddingLength]
  split <;> omega

theorem paddingLength_aligned (n : Nat) : (4 + 1 + n + paddingLength n) % 8 = 0 := by
  simp only [paddingLength]
  split <;> omega

/-- The random bytes the client pads a payload with. -/
def clientPadding (payload : List UInt8) (randomPadding : Uuid) : List UInt8 :=
  randomPadding.bytes.take (paddingLength payload.length)

theorem length_clientPadding (payload : List UInt8) (randomPadding : Uuid) :
    (clientPadding payload randomPadding).length = paddingLength payload.length := by
  have hle := (paddingLength_bounds payload.length).2
  rw [clientPadding, List.length_take, randomPadding.length_eq]
  omega

variable {payload : List UInt8}

theorem framePacket_eq (randomPadding : Uuid)
    (htotal : 4 + 1 + payload.length + paddingLength payload.length ≤ maxTotalPacketBytes) :
    framePacket payload randomPadding =
      some (packetBytes payload (clientPadding payload randomPadding)) := by
  have hle := (paddingLength_bounds payload.length).2
  have hmax : 4 + 1 + payload.length + paddingLength payload.length ≤ 35000 := htotal
  have huuid := randomPadding.length_eq
  unfold framePacket
  rw [if_pos (by omega), packetBytes, length_clientPadding]
  rfl

theorem validPacket_client (randomPadding : Uuid) (hne : payload ≠ [])
    (htotal : 4 + 1 + payload.length + paddingLength payload.length ≤ maxTotalPacketBytes) :
    ValidPacket payload (clientPadding payload randomPadding) := by
  have hbounds := paddingLength_bounds payload.length
  have haligned := paddingLength_aligned payload.length
  have hpayload : 0 < payload.length := List.length_pos_iff.mpr hne
  have hmax : 4 + 1 + payload.length + paddingLength payload.length ≤ 35000 := htotal
  have hfield : maxPacketLengthFieldValue = 34996 := rfl
  constructor <;> try rw [length_clientPadding]
  · omega
  · omega
  · omega
  · omega
  · omega
  · exact hne

namespace ByteStream

/-- The payload the reader hands on, and how far it has read. -/
theorem serverPayload_eq_ok_iff {bytes : List UInt8} {received : ByteSlice} {t : ByteStream} :
    serverPayload.outcome (new bytes) = (.ok received, t) ↔
      ∃ padding rest, ValidPacket received.bytes padding ∧
        bytes = packetBytes received.bytes padding ++ rest ∧
        t = feed.advance (new bytes) (packetBytes received.bytes padding).length := by
  rw [reads_serverPayload (new bytes) received t]
  have hrest : feed.rest (new bytes) = bytes := rfl
  constructor
  · rintro ⟨w, v, hw, ⟨padding, hvalid, rfl⟩, ht⟩
    exact ⟨padding, v, hvalid, hrest.symm.trans hw, ht⟩
  · rintro ⟨padding, rest, hvalid, hbytes, ht⟩
    exact ⟨_, rest, hrest.trans hbytes, ⟨padding, hvalid, rfl⟩, ht⟩

theorem advance_position {bytes packet rest : List UInt8} (h : bytes = packet ++ rest) :
    (feed.advance (new bytes) packet.length).position = packet.length := by
  have hlength := congrArg List.length h
  rw [List.length_append] at hlength
  show min (0 + packet.length) bytes.length = packet.length
  omega

/-- A packet of the client gives its payload back, whatever follows it. -/
theorem serverPayload_framePacket (randomPadding : Uuid) (hne : payload ≠ [])
    (htotal : 4 + 1 + payload.length + paddingLength payload.length ≤ maxTotalPacketBytes) :
    ∃ packet, framePacket payload randomPadding = some packet ∧ ∀ rest,
      ∃ received t, serverPayload.outcome (new (packet ++ rest)) = (.ok received, t) ∧
        received.bytes = payload ∧ t.position = packet.length := by
  have hmax : 4 + 1 + payload.length + paddingLength payload.length ≤ 35000 := htotal
  refine ⟨_, framePacket_eq randomPadding htotal, fun rest => ?_⟩
  refine ⟨⟨payload, by omega⟩, _, serverPayload_eq_ok_iff.mpr
    ⟨_, rest, validPacket_client randomPadding hne htotal, rfl, rfl⟩, rfl, ?_⟩
  exact advance_position rfl

/-- The reader is safe and accepts only well-formed packets, and among them are those of the
client. -/
theorem packetFraming :
    (∀ bytes, Reader.Ends readServerKexinit (new bytes) (ReadsWithin bytes)) ∧
    (∀ bytes received t, serverPayload.outcome (new bytes) = (.ok received, t) →
      ∃ padding rest, ValidPacket received.bytes padding ∧
        declaredLength (bytes.take 4) = 1 + received.bytes.length + padding.length ∧
        bytes = packetBytes received.bytes padding ++ rest ∧
        t.position = 4 + declaredLength (bytes.take 4)) ∧
    ∀ (payload : List UInt8) (randomPadding : Uuid), payload ≠ [] →
      4 + 1 + payload.length + paddingLength payload.length ≤ maxTotalPacketBytes →
        (4 ≤ paddingLength payload.length ∧ paddingLength payload.length ≤ 11) ∧
        ∃ packet, framePacket payload randomPadding = some packet ∧ ∀ rest,
          ∃ received t, serverPayload.outcome (new (packet ++ rest)) = (.ok received, t) ∧
            received.bytes = payload ∧ t.position = packet.length := by
  refine ⟨readServerKexinit_safe, fun bytes received t h => ?_, fun payload randomPadding hne
    htotal => ⟨paddingLength_bounds _, serverPayload_framePacket randomPadding hne htotal⟩⟩
  obtain ⟨padding, rest, hvalid, hbytes, ht⟩ := serverPayload_eq_ok_iff.mp h
  have hmax : 1 + received.bytes.length + padding.length ≤ 34996 := hvalid.length_le
  have hdeclared : declaredLength (bytes.take 4) = 1 + received.bytes.length + padding.length := by
    rw [hbytes]
    exact declaredLength_u32ToBeBytes (by omega)
  refine ⟨padding, rest, hvalid, hdeclared, hbytes, ?_⟩
  rw [ht, advance_position hbytes, hdeclared]
  simp only [packetBytes, List.length_append, List.length_cons]
  have hfour : (u32ToBeBytes (1 + received.bytes.length + padding.length)).length = 4 := rfl
  omega

theorem clientLists_valid : ∀ names ∈ clientLists, ValidNameList names := by
  have hkex : ValidNameList kexAlgorithms := by constructor <;> decide +kernel
  have hhostKey : ValidNameList hostKeyAlgorithms := by constructor <;> decide +kernel
  have hcipher : ValidNameList cipherAlgorithms := by constructor <;> decide +kernel
  have hmac : ValidNameList macAlgorithms := by constructor <;> decide +kernel
  have hcompression : ValidNameList compressionAlgorithms := by constructor <;> decide +kernel
  have hnone : ValidNameList [] := by constructor <;> decide +kernel
  simp only [clientLists, List.forall_mem_cons]
  exact ⟨hkex, hhostKey, hcipher, hcipher, hmac, hmac, hcompression, hcompression, hnone, hnone,
    fun _ hnames => absurd hnames List.not_mem_nil⟩

/-- What this client sends, this reader accepts, and it gets the lists of the client. -/
theorem clientKexinitPacket_accepted (cookie randomPadding : Uuid) :
    ∃ packet, clientKexinitPacket cookie randomPadding = some packet ∧ ∀ rest,
      (readServerKexinit.outcome (new (packet ++ rest))).1 = .ok ⟨clientLists⟩ := by
  have hlength : (clientLists.flatMap encodeNameList).length ≤ 1000 := by decide +kernel
  obtain ⟨payload, hpayload⟩ : ∃ payload, payload = sshMsgKexinit :: cookie.bytes ++
      clientLists.flatMap encodeNameList ++ [0, 0, 0, 0, 0] := ⟨_, rfl⟩
  have hbuilt : kexinitPayload cookie.bytes clientLists 0 = some payload := by
    rw [kexinitPayload, foldlM_appendNameList clientLists_valid, hpayload]
    rfl
  have htotal : 4 + 1 + payload.length + paddingLength payload.length ≤ maxTotalPacketBytes := by
    have hle := (paddingLength_bounds payload.length).2
    have hpayloadLength : payload.length ≤ 1022 := by
      rw [hpayload]
      simp only [List.length_append, List.length_cons, cookie.length_eq, List.length_nil]
      omega
    show 4 + 1 + payload.length + paddingLength payload.length ≤ 35000
    omega
  have hne : payload ≠ [] := by
    rw [hpayload]
    simp
  obtain ⟨packet, hpacket, hread⟩ := serverPayload_framePacket randomPadding hne htotal
  refine ⟨packet, by rw [clientKexinitPacket, hbuilt]; exact hpacket, fun rest => ?_⟩
  obtain ⟨received, t, houtcome, hreceived, _⟩ := hread rest
  have hformat : KexInitFormat clientLists received.bytes := by
    rw [hreceived, hpayload]
    exact ⟨rfl, clientLists_valid, cookie.bytes, 0, cookie.length_eq, .inl rfl, rfl⟩
  rw [readServerKexinit, Reader.outcome_bind, houtcome]
  simp only [(parseKexinit_iff received clientLists).mpr hformat]
  rfl

end ByteStream

end Surface
