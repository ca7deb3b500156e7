import IndexWatch.Proofs.Http.Heading
import Mathlib.Data.List.TakeWhile

/-! # Messages as a server may write them

A `Message` is what a server writes as one final response, with a body whose end the head tells in
one of three ways. By `Message.read_bytes` the reader finds the status and the body, however the
body was framed and cut into chunks. A message that is `Cut` off is no response: within the heads the
reader misses the end of a line, `Message.read_of_cut_heads`, and within a body whose end is told it
misses the rest, `Message.read_of_cut`. Every response can be written in each of the three ways,
`exists_message_render`. -/

namespace IndexWatch.Http

/-! ## Chunks -/

theorem dropWhile_isBlankByte {bytes : Bytes} (h : ∀ b ∈ bytes, isBlankByte b = false) :
    bytes.dropWhile isBlankByte = bytes :=
  List.dropWhile_eq_self_iff.mpr fun hlength => by simp [h _ (List.getElem_mem hlength)]

theorem trimBlanks_eq_self {bytes : Bytes} (h : ∀ b ∈ bytes, isBlankByte b = false) :
    trimBlanks bytes = bytes := by
  rw [trimBlanks, dropWhile_isBlankByte h, dropWhile_isBlankByte (by simpa using h),
    List.reverse_reverse]

theorem splitSizeLine?_append {line : Bytes} (H : Unbroken line) (rest : Bytes) :
    splitSizeLine? (line ++ (lineEnd ++ rest)) = some (line, rest) := by
  have hline : (line ++ (lineEnd ++ rest)).takeWhile (· != carriageReturn) = line := by
    rw [List.takeWhile_append_of_pos fun b hb => by simp [(H b hb).1]]
    simp [lineEnd]
  have hfeed : lineFeed ∉ line := fun hmem => (H _ hmem).2 rfl
  rw [splitSizeLine?, hline, List.drop_left]
  simp [lineEnd, hfeed]

theorem splitSizeLine?_eq_none {part : Bytes} (h : lineFeed ∉ part) : splitSizeLine? part = none := by
  simp only [splitSizeLine?]
  split
  · next b rest hdrop =>
    have hmem : b ∈ part := List.mem_of_mem_drop (hdrop ▸ List.mem_cons_of_mem _ List.mem_cons_self)
    refine if_neg ?_
    rintro ⟨rfl, _⟩
    exact h hmem
  · rfl

section
variable (n : Nat)

theorem unbroken_hexText : Unbroken (hexText n) :=
  forall_mem_numeral (by decide) (by decide) (by decide) n

theorem chunkSize?_hexText : chunkSize? (hexText n) = some n := by
  have hdigit : ∀ d < 16, digitByte d ≠ 0x3B ∧ isBlankByte (digitByte d) = false := by decide
  have hclean := forall_mem_numeral (p := fun b => b ≠ 0x3B ∧ isBlankByte b = false) (by decide)
    (by decide) hdigit n
  have hdigits : ((((numeral 16 n).takeWhile (· != 0x3B)).reverse.dropWhile isBlankByte).reverse) =
      numeral 16 n := by
    rw [List.takeWhile_eq_self_iff.mpr fun b hb => by simpa using (hclean b hb).1,
      dropWhile_isBlankByte fun b hb => (hclean b (List.mem_reverse.mp hb)).2, List.reverse_reverse]
  have hempty : (numeral 16 n).isEmpty = false :=
    List.isEmpty_eq_false_iff.mpr (numeral_ne_nil (by decide) (by decide) n)
  rw [chunkSize?, hexText_eq_numeral, hdigits, hempty]
  exact foldlM_numeral n

end

theorem ascii_zero : ascii "0" = hexText 0 := rfl

/-- The bytes of some chunks, and of the one that ends them. -/
def chunkLines : List Bytes → Bytes
  | [] => hexText 0 ++ (lineEnd ++ lineEnd)
  | chunk :: chunks =>
    hexText chunk.length ++ (lineEnd ++ (chunk ++ (lineEnd ++ chunkLines chunks)))

/-- Behind the size of a chunk stand its bytes and the end of a line, or the body is incomplete. -/
theorem readChunks_size (fuel : Nat) {size : Nat} (h : size ≠ 0) (text : Bytes) :
    readChunks (fuel + 1) (hexText size ++ (lineEnd ++ text)) =
      if (text.drop size).take 2 = lineEnd then
        (readChunks fuel (text.drop (size + 2))).map (text.take size ++ ·)
      else .error .incompleteBody := by
  obtain ⟨n, rfl⟩ := Nat.exists_eq_succ_of_ne_zero h
  rw [readChunks, splitSizeLine?_append (unbroken_hexText _)]
  simp only [chunkSize?_hexText]

theorem readChunks_chunk (fuel : Nat) {chunk : Bytes} (h : chunk ≠ []) (rest : Bytes) :
    readChunks (fuel + 1) (hexText chunk.length ++ (lineEnd ++ (chunk ++ (lineEnd ++ rest)))) =
      (readChunks fuel rest).map (chunk ++ ·) := by
  have hend : ((chunk ++ (lineEnd ++ rest)).drop chunk.length).take 2 = lineEnd := by
    rw [List.drop_left]
    rfl
  rw [readChunks_size fuel (mt List.length_eq_zero_iff.mp h), if_pos hend, List.take_left,
    ← List.drop_drop, List.drop_left]
  rfl

theorem readChunks_eq_incompleteBody {part : Bytes} (h : lineFeed ∉ part) (fuel : Nat) :
    readChunks fuel part = .error .incompleteBody := by
  cases fuel with
  | zero => rfl
  | succ fuel => rw [readChunks, splitSizeLine?_eq_none h]

theorem length_le_chunkLines (chunks : List Bytes) :
    chunks.length ≤ (chunkLines chunks).length := by
  induction chunks with
  | nil => exact Nat.zero_le _
  | cons chunk chunks ih =>
    simp only [chunkLines, lineEnd, List.length_append, List.length_cons]
    omega

theorem readChunks_chunkLines {chunks : List Bytes} (hchunks : ∀ chunk ∈ chunks, chunk ≠ [])
    {fuel : Nat} (hfuel : chunks.length < fuel) :
    readChunks fuel (chunkLines chunks) = .ok chunks.flatten := by
  induction chunks generalizing fuel with
  | nil =>
    obtain ⟨fuel, rfl⟩ := Nat.exists_eq_succ_of_ne_zero (Nat.ne_zero_of_lt hfuel)
    rw [readChunks, chunkLines, splitSizeLine?_append (unbroken_hexText 0)]
    simp only [chunkSize?_hexText]
    rfl
  | cons chunk chunks ih =>
    obtain ⟨fuel, rfl⟩ := Nat.exists_eq_succ_of_ne_zero (Nat.ne_zero_of_lt hfuel)
    obtain ⟨hchunk, hchunks⟩ := List.forall_mem_cons.mp hchunks
    rw [chunkLines, readChunks_chunk fuel hchunk, ih hchunks (Nat.lt_of_succ_lt_succ hfuel)]
    rfl

theorem readChunks_of_cut {chunks : List Bytes} (hchunks : ∀ chunk ∈ chunks, chunk ≠ [])
    {part : Bytes} (H : Cut part (chunkLines chunks)) (fuel : Nat) :
    readChunks fuel part = .error .incompleteBody := by
  induction chunks generalizing fuel part with
  | nil =>
    rw [chunkLines, ← List.append_assoc] at H
    rcases cut_append_cases H with hsize | ⟨part, rfl, hlast⟩
    · exact readChunks_eq_incompleteBody (hsize.not_mem (unbroken_hexText 0)) fuel
    · cases fuel with
      | zero => rfl
      | succ fuel =>
        rw [readChunks, List.append_assoc, splitSizeLine?_append (unbroken_hexText 0)]
        simp only [chunkSize?_hexText, readFields_eq_closedEarly hlast.not_mem_lineEnd]
  | cons chunk chunks ih =>
    obtain ⟨hchunk, hchunks⟩ := List.forall_mem_cons.mp hchunks
    rw [chunkLines, ← List.append_assoc] at H
    rcases cut_append_cases H with hsize | ⟨part, rfl, hrest⟩
    · exact readChunks_eq_incompleteBody (hsize.not_mem (unbroken_hexText _)) fuel
    cases fuel with
    | zero => rfl
    | succ fuel =>
      rw [← List.append_assoc] at hrest
      rcases cut_append_cases hrest with hdata | ⟨part, rfl, hlines⟩
      · -- The chunk or its end is not all there.
        have hshort : (part.drop chunk.length).take 2 ≠ lineEnd := by
          have hlength := hdata.length_lt
          intro heq
          have hlength' := congrArg List.length heq
          simp [lineEnd] at hlength hlength'
          omega
        rw [List.append_assoc, readChunks_size fuel (mt List.length_eq_zero_iff.mp hchunk),
          if_neg hshort]
      · simp only [List.append_assoc]
        rw [readChunks_chunk fuel hchunk, ih hchunks hlines]
        rfl

/-! ## Messages -/

/-- Everything that the fields of a head say under a name. -/
def Heading.valuesOf (heading : Heading) (name : String) : List Bytes :=
  ((heading.fields.map Field.pair).filter (·.1 == ascii name)).map Prod.snd

theorem Heading.values_head (heading : Heading) (name : String) :
    heading.head.values name = heading.valuesOf name := rfl

/-- A body, as it is written. -/
inductive Content where
  | counted (body : Bytes)
  | chunked (chunks : List Bytes)
  | untilClose (body : Bytes)

namespace Content

def body : Content → Bytes
  | counted body | untilClose body => body
  | chunked chunks => chunks.flatten

/-- What follows the head. -/
def payload : Content → Bytes
  | counted body | untilClose body => body
  | chunked chunks => chunkLines chunks

/-- The end of the body can be told before the connection is closed. -/
def isDelimited : Content → Bool
  | counted _ | chunked _ => true
  | untilClose _ => false

/-- A head tells how the body that follows it is written. -/
def Told (heading : Heading) : Content → Prop
  | counted body =>
    heading.valuesOf "transfer-encoding" = [] ∧
      heading.valuesOf "content-length" = [numeral 10 body.length]
  | chunked chunks =>
    (∃ encoding, heading.valuesOf "transfer-encoding" = [encoding] ∧
      encoding.map lowerByte = ascii "chunked") ∧
      heading.valuesOf "content-length" = [] ∧ ∀ chunk ∈ chunks, chunk ≠ []
  | untilClose _ =>
    heading.valuesOf "transfer-encoding" = [] ∧ heading.valuesOf "content-length" = []

end Content

theorem isChunked_of_map_lowerByte {encoding : Bytes}
    (h : encoding.map lowerByte = ascii "chunked") : isChunked encoding = true := by
  have hletters : ∀ b ∈ ascii "chunked", b ≠ 0x2C ∧ isBlankByte b = false := by decide +kernel
  have hclean : ∀ b ∈ encoding, b ≠ 0x2C ∧ isBlankByte b = false := by
    intro b hb
    have hlower := hletters (lowerByte b) (h ▸ List.mem_map_of_mem hb)
    refine ⟨?_, Bool.eq_false_iff.mpr fun hblank => ?_⟩
    · rintro rfl
      exact hlower.1 rfl
    · rcases Bool.or_eq_true_iff.mp hblank with h | h <;> rw [eq_of_beq h] at hlower <;>
        exact absurd hlower.2 (by decide)
  have hwhole : encoding.reverse.takeWhile (· != 0x2C) = encoding.reverse :=
    List.takeWhile_eq_self_iff.mpr fun b hb => by simpa using (hclean b (List.mem_reverse.mp hb)).1
  rw [isChunked, hwhole, List.reverse_reverse, trimBlanks_eq_self fun b hb => (hclean b hb).2, h]
  exact beq_self_eq_true _

theorem decimal?_numeral (n : Nat) : decimal? (numeral 10 n) = some n := by
  have hempty : (numeral 10 n).isEmpty = false :=
    List.isEmpty_eq_false_iff.mpr (numeral_ne_nil (by decide) (by decide) _)
  rw [decimal?, hempty, all_isDigitByte_numeral, decimalOf_numeral]
  rfl

theorem contentLength?_numeral (n : Nat) : contentLength? [numeral 10 n] = some n := by
  have hdigit : ∀ d < 10, digitByte d ≠ 0x2C ∧ isBlankByte (digitByte d) = false := by decide
  have hclean := forall_mem_numeral (p := fun b => b ≠ 0x2C ∧ isBlankByte b = false) (by decide)
    (by decide) hdigit n
  have hsplit : (numeral 10 n).splitOn 0x2C = [numeral 10 n] :=
    List.splitOnP_eq_singleton fun b hb => by simpa using (hclean b hb).1
  have htrimmed : trimBlanks (numeral 10 n) = numeral 10 n :=
    trimBlanks_eq_self fun b hb => (hclean b hb).2
  simp [contentLength?, hsplit, htrimmed, decimal?_numeral]

section
variable {heading : Heading} (hbodiless : isBodiless heading.status = false) (text : Bytes)
include hbodiless

theorem readBody_of_counted {body : Bytes} (htold : (Content.counted body).Told heading) :
    readBody heading.head text =
      if text.length < body.length then .error .incompleteBody
      else .ok (text.take body.length) := by
  obtain ⟨hencoding, hlength⟩ := htold
  rw [readBody, Heading.values_head, Heading.values_head, hencoding, hlength]
  simp [Heading.head, hbodiless, contentLength?_numeral]

theorem readBody_of_chunked {chunks : List Bytes} (htold : (Content.chunked chunks).Told heading) :
    readBody heading.head text = readChunks (text.length + 1) text := by
  obtain ⟨⟨encoding, hencoding, hlower⟩, _⟩ := htold
  rw [readBody, Heading.values_head, hencoding]
  simp [Heading.head, hbodiless, isChunked_of_map_lowerByte hlower]

theorem readBody_of_untilClose {body : Bytes} (htold : (Content.untilClose body).Told heading) :
    readBody heading.head text = .ok text := by
  obtain ⟨hencoding, hlength⟩ := htold
  rw [readBody, Heading.values_head, Heading.values_head, hencoding, hlength]
  simp [Heading.head, hbodiless]

theorem readBody_payload {content : Content} (htold : content.Told heading) :
    readBody heading.head content.payload = .ok content.body := by
  cases content with
  | counted body =>
    rw [readBody_of_counted hbodiless _ htold, Content.payload, if_neg (Nat.lt_irrefl _),
      List.take_length]
    rfl
  | chunked chunks =>
    rw [readBody_of_chunked hbodiless _ htold]
    exact readChunks_chunkLines htold.2.2 (Nat.lt_succ_of_le (length_le_chunkLines chunks))
  | untilClose body => exact readBody_of_untilClose hbodiless _ htold

theorem readBody_of_cut {content : Content} (htold : content.Told heading)
    (hdelimited : content.isDelimited = true) {part : Bytes} (H : Cut part content.payload) :
    readBody heading.head part = .error .incompleteBody := by
  cases content with
  | counted body =>
    have hshort : part.length < body.length := H.length_lt
    rw [readBody_of_counted hbodiless _ htold, if_pos hshort]
  | chunked chunks =>
    rw [readBody_of_chunked hbodiless _ htold, readChunks_of_cut htold.2.2 H]
  | untilClose body => contradiction

end

/-- All that a server sends for one request: heads that announce that the answer is still to come,
the head of the answer, and its body. -/
structure Message where
  interim : List Heading
  interim_status : ∀ heading ∈ interim, isInterim heading.status = true
  heading : Heading
  status_ge : 200 ≤ heading.status
  status_ne : heading.status ≠ 204 ∧ heading.status ≠ 304
  content : Content
  told : content.Told heading

namespace Message

variable (message : Message)

def status : Nat := message.heading.status

def body : Bytes := message.content.body

def heads : Bytes := message.interim.flatMap Heading.bytes ++ message.heading.bytes

def bytes : Bytes := message.heads ++ message.content.payload

theorem isInterim_status : isInterim message.heading.status = false := by
  have hge := message.status_ge
  simp only [isInterim, Bool.and_eq_false_iff, decide_eq_false_iff_not]
  omega

theorem isBodiless_status : isBodiless message.heading.status = false := by
  have hge := message.status_ge
  obtain ⟨hno, hnot⟩ := message.status_ne
  simp only [isBodiless, Bool.or_eq_false_iff, beq_eq_false_iff_ne]
  omega

theorem length_interim_le : message.interim.length ≤ message.heads.length := by
  rw [heads, List.length_append]
  induction message.interim with
  | nil => exact Nat.zero_le _
  | cons first interim ih =>
    have hfirst : 0 < first.bytes.length := by
      simp only [Heading.bytes, lineEnd, List.length_append, List.length_cons]
      omega
    simp only [List.flatMap_cons, List.length_append, List.length_cons]
    omega

theorem readFinalHead_heads (rest : Bytes) :
    readFinalHead ((message.heads ++ rest).length + 1) (message.heads ++ rest) =
      .ok (message.heading.head, rest) := by
  have hfuel : message.interim.length < (message.heads ++ rest).length + 1 := by
    have hle := message.length_interim_le
    rw [List.length_append]
    omega
  rw [heads, List.append_assoc]
  rw [heads, List.append_assoc] at hfuel
  exact readFinalHead_bytes message.interim_status message.isInterim_status hfuel rest

/-- The status and the body are read, however they are written. -/
theorem read_bytes : Response.read message.bytes = .ok ⟨message.status, message.body⟩ := by
  rw [Response.read, bytes, readFinalHead_heads]
  simp only [bind, Except.bind, readBody_payload message.isBodiless_status message.told]
  rfl

/-- A response that ends within its heads is none. -/
theorem read_of_cut_heads {part : Bytes} (H : Cut part message.heads) :
    Response.read part = .error .closedEarly := by
  rw [Response.read, readFinalHead_of_cut message.interim_status H]
  rfl

/-- A response that ends within a body whose end is told is incomplete. -/
theorem read_of_cut (hdelimited : message.content.isDelimited = true) {part : Bytes}
    (H : Cut part message.content.payload) :
    Response.read (message.heads ++ part) = .error .incompleteBody := by
  rw [Response.read, readFinalHead_heads]
  simp only [bind, Except.bind,
    readBody_of_cut message.isBodiless_status message.told hdelimited H]

/-- What is cut off before the end can be told is no response. -/
theorem exists_fault_of_cut {part : Bytes} (H : Cut part message.bytes)
    (htold : message.content.isDelimited = true ∨ Cut part message.heads) :
    ∃ fault, Response.read part = .error fault := by
  rcases cut_append_cases H with hheads | ⟨part, rfl, hpayload⟩
  · exact ⟨_, message.read_of_cut_heads hheads⟩
  rcases htold with hdelimited | hheads
  · exact ⟨_, message.read_of_cut hdelimited hpayload⟩
  · exact ⟨_, message.read_of_cut_heads hheads⟩

end Message

/-! ## Responses that are rendered -/

theorem isReasonByte_reason (status : Nat) :
    (ascii ((reason? status).getD "<unknown status code>")).all isReasonByte = true := by
  unfold reason?
  split <;> decide +kernel

/-- The head of a response that is rendered. -/
def Heading.rendered (status : Nat) (hge : 100 ≤ status) (hlt : status < 1000) (field : Field) :
    Heading where
  status := status
  status_ge := hge
  status_lt := hlt
  reason := ascii ((reason? status).getD "<unknown status code>")
  reason_clean := List.all_eq_true.mp (isReasonByte_reason status)
  fields := [field]

theorem Heading.bytes_rendered {status : Nat} (hge : 100 ≤ status) (hlt : status < 1000)
    (field : Field) :
    (Heading.rendered status hge hlt field).bytes = renderHead status field.line := by
  have hspace : ascii " " = [0x20] := by decide +kernel
  have hline : ascii s!"HTTP/1.1 {statusText status}" =
      ascii "HTTP/1.1 " ++ (rendered status hge hlt field).verdict := by
    change ascii ("HTTP/1.1 " ++ (toString status ++ " " ++ _)) = _
    rw [ascii_append, ascii_append, ascii_append, ascii_toString, hspace, List.append_assoc]
    rfl
  rw [renderHead, hline, bytes]
  simp only [rendered, fieldLines, List.append_assoc]

theorem Heading.valuesOf_rendered {status : Nat} (hge : 100 ≤ status) (hlt : status < 1000)
    (field : Field) (name : String) :
    (Heading.rendered status hge hlt field).valuesOf name =
      if field.pair.1 = ascii name then [field.pair.2] else [] := by
  simp only [valuesOf, rendered, List.map_cons, List.map_nil, List.filter_cons, List.filter_nil,
    beq_iff_eq]
  split <;> rfl

def lengthField (n : Nat) : Field where
  name := ascii "content-length"
  text := 0x20 :: numeral 10 n
  name_ne_nil := by decide +kernel
  name_clean := by decide +kernel
  text_clean := List.forall_mem_cons.mpr ⟨by decide,
    forall_mem_numeral (p := (isReasonByte · = true)) (by decide) (by decide) (by decide) n⟩

def chunkedField : Field where
  name := ascii "transfer-encoding"
  text := ascii " chunked"
  name_ne_nil := by decide +kernel
  name_clean := by decide +kernel
  text_clean := by decide +kernel

def closeField : Field where
  name := ascii "connection"
  text := ascii " close"
  name_ne_nil := by decide +kernel
  name_clean := by decide +kernel
  text_clean := by decide +kernel

theorem line_lengthField (n : Nat) : (lengthField n).line = ascii s!"content-length: {n}" := by
  have hmark : ascii "content-length: " = ascii "content-length" ++ [0x3A, 0x20] := by
    decide +kernel
  change _ = ascii ("content-length: " ++ toString n)
  rw [ascii_append, ascii_toString, hmark, List.append_assoc]
  rfl

theorem pair_lengthField (n : Nat) :
    (lengthField n).pair = (ascii "content-length", numeral 10 n) := by
  have hclean := forall_mem_numeral (p := (isBlankByte · = false)) (by decide) (by decide)
    (by decide : ∀ d < 10, isBlankByte (digitByte d) = false) n
  have hname : (ascii "content-length").map lowerByte = ascii "content-length" := by decide +kernel
  have htext : trimBlanks (0x20 :: numeral 10 n) = trimBlanks (numeral 10 n) := rfl
  rw [Field.pair, lengthField, hname, htext, trimBlanks_eq_self hclean]

theorem line_chunkedField : chunkedField.line = ascii "transfer-encoding: chunked" := by
  decide +kernel

theorem line_closeField : closeField.line = ascii "connection: close" := by
  decide +kernel

theorem exists_chunkLines_eq_renderChunks {size fuel : Nat} (hsize : 0 < size) {body : Bytes}
    (hfuel : body.length ≤ fuel) :
    ∃ chunks, (∀ chunk ∈ chunks, chunk ≠ []) ∧ chunks.flatten = body ∧
      chunkLines chunks = renderChunks size fuel body := by
  have hnone : ∀ chunk ∈ ([] : List Bytes), chunk ≠ [] := nofun
  have hlast : chunkLines [] = ascii "0" ++ lineEnd ++ lineEnd := by
    rw [ascii_zero, List.append_assoc]
    rfl
  induction fuel generalizing body with
  | zero =>
    exact ⟨[], hnone, (List.eq_nil_of_length_eq_zero (Nat.le_zero.mp hfuel)).symm, hlast⟩
  | succ fuel ih =>
    by_cases hbody : body = []
    · subst hbody
      exact ⟨[], hnone, rfl, hlast⟩
    · have hlength := List.length_pos_iff.mpr hbody
      have hrest : (body.drop size).length ≤ fuel := by
        rw [List.length_drop]
        omega
      obtain ⟨chunks, hchunks, hflatten, hlines⟩ := ih hrest
      have hchunk : body.take size ≠ [] := List.length_pos_iff.mp (by simp; omega)
      refine ⟨body.take size :: chunks, List.forall_mem_cons.mpr ⟨hchunk, hchunks⟩, ?_, ?_⟩
      · rw [List.flatten_cons, hflatten, List.take_append_drop]
      · have hempty : body.isEmpty = false := List.isEmpty_eq_false_iff.mpr hbody
        simp [chunkLines, renderChunks, hempty, hlines]

section
variable {response : Response} (hge : 200 ≤ response.status) (hlt : response.status < 1000)
  (hne : response.status ≠ 204 ∧ response.status ≠ 304)
include hge hlt hne

/-- Every response that may have a body can be written with each framing. -/
theorem exists_message_render (framing : Framing) :
    ∃ message : Message, message.bytes = response.render framing ∧
      message.status = response.status ∧ message.body = response.body := by
  let heading := Heading.rendered response.status (Nat.le_trans (by decide) hge) hlt
  have hbytes (field : Field) : (heading field).bytes = renderHead response.status field.line :=
    Heading.bytes_rendered ..
  have hvalues (field : Field) (name : String) : (heading field).valuesOf name =
      if field.pair.1 = ascii name then [field.pair.2] else [] := Heading.valuesOf_rendered ..
  cases framing with
  | length =>
    have htold : (Content.counted response.body).Told
        (heading (lengthField response.body.length)) := by
      have hother : ascii "content-length" ≠ ascii "transfer-encoding" := by decide +kernel
      constructor <;> rw [hvalues, pair_lengthField]
      · exact if_neg hother
      · exact if_pos rfl
    refine ⟨⟨[], nofun, _, hge, hne, _, htold⟩, ?_, rfl, rfl⟩
    change (heading (lengthField response.body.length)).bytes ++ response.body = _
    rw [hbytes, Response.render, line_lengthField]
  | chunked sizeLessOne =>
    obtain ⟨chunks, hchunks, hflatten, hlines⟩ :=
      exists_chunkLines_eq_renderChunks (Nat.succ_pos sizeLessOne)
        (Nat.le_refl response.body.length)
    have htold : (Content.chunked chunks).Told (heading chunkedField) := by
      refine ⟨⟨_, (hvalues ..).trans (if_pos ?_), ?_⟩, (hvalues ..).trans (if_neg ?_), hchunks⟩ <;>
        decide +kernel
    refine ⟨⟨[], nofun, _, hge, hne, _, htold⟩, ?_, rfl, hflatten⟩
    change (heading chunkedField).bytes ++ chunkLines chunks = _
    rw [hbytes, Response.render, hlines, line_chunkedField]
  | untilClose =>
    have htold : (Content.untilClose response.body).Told (heading closeField) := by
      refine ⟨(hvalues ..).trans (if_neg ?_), (hvalues ..).trans (if_neg ?_)⟩ <;> decide +kernel
    refine ⟨⟨[], nofun, _, hge, hne, _, htold⟩, ?_, rfl, rfl⟩
    change (heading closeField).bytes ++ response.body = _
    rw [hbytes, Response.render, line_closeField]

theorem read_render (framing : Framing) :
    Response.read (response.render framing) = .ok response := by
  obtain ⟨message, hbytes, hstatus, hbody⟩ := exists_message_render hge hlt hne framing
  rw [← hbytes, message.read_bytes, hstatus, hbody]

end

end IndexWatch.Http
