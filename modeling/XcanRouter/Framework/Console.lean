import XcanRouter.Base.CString
import XcanRouter.Framework.Heartbeat
import XcanRouter.Framework.Traffic

/-!
# What the gateway prints

With `DEBUG_ENABLE` each PDU that `PDU_Task` receives and each message that
`CAN_sendFrame` sends is printed. A message is put together in a buffer on the
stack, a line with its identifier and length first, and its bytes over that
line afterwards. The buffers are sized for the length of the message, not for
the label of its identifier.

The UART and the outcome of `CAN_SendBlocking` are not part of the repository.
-/

namespace XcanRouter

/-! ## Buffers -/

/-- A buffer after a function has used it, and the strings that were shown. -/
structure Printout where
  size : Nat
  buff : List Char
  shown : List (List Char) := []

/-- Nothing was written behind the buffer. -/
def Printout.InBounds (p : Printout) : Prop := p.buff.length ≤ p.size

instance (p : Printout) : Decidable p.InBounds :=
  inferInstanceAs (Decidable (_ ≤ _))

/-- A new buffer has what was on the stack before. -/
def newBuffer (stack : Nat → Char) (size : Nat) : List Char := (List.range size).map stack

/-- A line is shown, and then the bytes, which are written over it. -/
def printMessage (stack : Nat → Char) (size : Nat) (line : List Char) (length : UInt8)
    (data : Bytes) : Printout :=
  let buff := CString.write (newBuffer stack size) 0 line
  let dumped := CString.writeEach 3 (fun i => CString.dumpByte true (data i)) length.toNat buff
  { size := size, buff := dumped, shown := [CString.read buff, CString.read dumped] }

/-- `"\e[31m\e[1m"` -/
def errorMark : List Char := ['\x1b', '[', '3', '1', 'm', '\x1b', '[', '1', 'm']

/-- `"\e[0m"` -/
def plainMark : List Char := ['\x1b', '[', '0', 'm']

/-- `CONSOLE_printError` -/
def consolePrintError (stack : Nat → Char) (string : List Char) : Printout :=
  let size := string.length + 20
  let text := errorMark ++ string ++ plainMark
  let buff := CString.write (newBuffer stack size) 0 text
  { size := size, buff := buff, shown := [CString.read buff] }

/-! ## Lines -/

/-- `%d` -/
def decimal (n : UInt32) : List Char :=
  if n.toNat < 2 ^ 31 then Nat.toDigits 10 n.toNat
  else '-' :: Nat.toDigits 10 (2 ^ 32 - n.toNat)

def direction (tx : Bool) : List Char := if tx then "Tx".toList else "Rx".toList

def colour (tx : Bool) : List Char := if tx then ['\x1b', '[', '3', '3', 'm'] else plainMark

/-- `"\n\r"` -/
def newLine : List Char := ['\n', '\r']

/-- The label of a message; `labels` are those of `PDU_Descriptors`. -/
def messageLabel (labels : UInt32 → CString) (id : UInt32) : List Char :=
  if id &&& pduIdMaskTypeData ≠ 0 then (labels (id &&& pduIdMaskEcuId)).text
  else if id &&& pduIdMaskTypeCmd ≠ 0 then "COMMAND  ".toList
  else if id &&& pduIdMaskTypeFw ≠ 0 then "FIRMWARE  ".toList
  else "N/A".toList

/-- The end of every line: the identifier and the length. -/
def messageLine (upper : Bool) (lead : List Char) (id : UInt32) (length : UInt8) : List Char :=
  lead ++ "\t0x".toList ++ CString.hex upper 8 id.toNat ++ "\t0x".toList ++
    CString.hex upper 2 length.toNat ++ "\t".toList

/-- What `CAN_SendBlocking` returns. -/
inductive SendStatus where
  | success
  | busy
  | timeout
  | error
  | buffOutOfRange
  | other
deriving DecidableEq

def SendStatus.text : SendStatus → List Char
  | .busy => "BUSY    ".toList
  | .timeout => "TIMEOUT ".toList
  | .error => "ERROR   ".toList
  | .buffOutOfRange => "MB OUT OF RANGE".toList
  | _ => "N/A".toList

section
variable (labels : UInt32 → CString) (stack : Nat → Char)

/-- `PDU_printPDU` -/
def pduPrintout (pdu : Pdu) (tx : Bool) (data : Bytes) : Printout :=
  let lead := newLine ++ colour tx ++ "[PDU ][".toList ++ direction tx ++ "] ".toList ++
    messageLabel labels pdu.id
  printMessage stack (50 + pdu.length.toNat * 3) (messageLine false lead pdu.id pdu.length)
    pdu.length data

/-- `CAN_printFrame` -/
def canPrintFrame (msg : CanSend) (tx : Bool) : Printout :=
  let lead := newLine ++ colour tx ++ "[CAN".toList ++ decimal msg.instIdx ++ "][".toList ++
    direction tx ++ "] ".toList ++ messageLabel labels msg.id
  printMessage stack (50 + msg.length.toNat * 3) (messageLine true lead msg.id msg.length)
    msg.length fun i => msg.payload.getD i 0

/-- `CAN_printError`: its own buffer, and those of `CONSOLE_printError`. -/
def canPrintError (msg : CanSend) (stat : SendStatus) : List Printout :=
  let lead := newLine ++ "[CAN".toList ++ decimal msg.instIdx ++ "][Tx] ".toList ++ stat.text
  let printout := printMessage stack 100 (messageLine true lead msg.id msg.length) msg.length
    fun i => msg.payload.getD i 0
  { printout with shown := [] } :: printout.shown.map (consolePrintError stack)

/-- What `CAN_sendFrame` prints. -/
def canSendPrintouts (msg : CanSend) (stat : SendStatus) : List Printout :=
  if stat = .success then [canPrintFrame labels stack msg true]
  else canPrintError stack msg stat

/-- What `PDU_Task` prints on a PDU that it received. -/
def Gateway.dispatchPrintouts (s : Gateway) (pdu : Pdu) : List Printout :=
  pduPrintout labels stack pdu false (s.mem.byteAt (pdu.byte 0)) ::
    match pduType pdu.id with
    | .command =>
      if s.gatewayQueue.Full then
        [consolePrintError stack "ERROR: Gateway queue is full!".toList]
      else []
    | .firmware =>
      if s.fwUpdateQueue.Full then
        [consolePrintError stack "ERROR: Firmware queue is full!".toList]
      else []
    | _ => []

/-- What a step prints, when a send in it ends with `stat`. -/
def Gateway.printouts (cfg : Config) (s : Gateway) (e : GatewayEvent) (stat : SendStatus) :
    List Printout :=
  (s.decided e).flatMap (s.dispatchPrintouts labels stack) ++
    (s.sent cfg e).flatMap fun msg => canSendPrintouts labels stack msg stat

end

/-- The labels in pdu_table.c. -/
def pduLabels (pduId : UInt32) : CString :=
  match pduId.toNat with
  | 0 => { text := "Engine RPM".toList, noZero := by decide }
  | 1 => { text := "Engine Temp".toList, noZero := by decide }
  | 2 => { text := "Ignition Switch".toList, noZero := by decide }
  | 3 => { text := "Acceleration Pedal".toList, noZero := by decide }
  | 4 => { text := "Handbrake".toList, noZero := by decide }
  | _ => { text := [], noZero := by simp }

/-! ## What fits -/

section
variable {stack : Nat → Char} {size : Nat} {line : List Char} {length : UInt8} {data : Bytes}

@[simp] theorem length_newBuffer (stack : Nat → Char) (size : Nat) :
    (newBuffer stack size).length = size := by
  simp [newBuffer]

/-- **A message fits** when its line does, and its bytes. -/
theorem printMessage_inBounds :
    (printMessage stack size line length data).InBounds ↔
      line.length + 1 ≤ size ∧ (length.toNat = 0 ∨ length.toNat * 3 + 1 ≤ size) := by
  have hline := CString.length_write_zero (newBuffer stack size) line
  rw [length_newBuffer] at hline
  unfold Printout.InBounds printMessage
  dsimp only
  cases hlength : length.toNat with
  | zero =>
      show (CString.write (newBuffer stack size) 0 line).length ≤ size ↔ _
      rw [hline]
      omega
  | succ n =>
      rw [CString.length_writeEach (fun i => CString.length_dumpByte (data i)), hline]
      omega

/-- A message whose buffer was sized for it fits when its line does. -/
theorem printMessage_sized_inBounds :
    (printMessage stack (50 + length.toNat * 3) line length data).InBounds ↔
      line.length ≤ 49 + length.toNat * 3 := by
  rw [printMessage_inBounds]
  omega

theorem consolePrintError_inBounds (string : List Char) :
    (consolePrintError stack string).InBounds := by
  unfold Printout.InBounds consolePrintError
  dsimp only
  rw [CString.length_write_zero]
  simp [errorMark, plainMark]

theorem length_messageLine (upper : Bool) (lead : List Char) (id : UInt32) (length : UInt8) :
    (messageLine upper lead id length).length = lead.length + 17 := by
  simp [messageLine]

theorem length_decimal_le (n : UInt32) : (decimal n).length ≤ 11 := by
  have hn : n.toNat < 4294967296 := n.toNat_lt
  unfold decimal
  split
  · have hdigits : (Nat.toDigits 10 n.toNat).length ≤ 10 := by
      rw [Nat.length_toDigits_le_iff (by omega) (by omega)]
      omega
    omega
  · have hdigits : (Nat.toDigits 10 (2 ^ 32 - n.toNat)).length ≤ 10 := by
      rw [Nat.length_toDigits_le_iff (by omega) (by omega)]
      omega
    rw [List.length_cons]
    omega

theorem length_statusText_le (stat : SendStatus) : stat.text.length ≤ 15 := by
  cases stat <;> decide

end

section
variable {labels : UInt32 → CString} {stack : Nat → Char}

theorem pduPrintout_inBounds {pdu : Pdu} {data : Bytes} :
    (pduPrintout labels stack pdu false data).InBounds ↔
      (messageLabel labels pdu.id).length ≤ 15 + pdu.length.toNat * 3 := by
  unfold pduPrintout
  rw [printMessage_sized_inBounds, length_messageLine]
  simp [newLine, colour, plainMark, direction]
  omega

theorem canPrintFrame_inBounds {msg : CanSend} :
    (canPrintFrame labels stack msg true).InBounds ↔
      (decimal msg.instIdx).length + (messageLabel labels msg.id).length ≤
        15 + msg.length.toNat * 3 := by
  unfold canPrintFrame
  rw [printMessage_sized_inBounds, length_messageLine]
  simp [newLine, colour, direction]
  omega

/-- The buffer of an error has room for 33 bytes. -/
theorem canPrintError_inBounds {msg : CanSend} {stat : SendStatus} :
    (∀ p ∈ canPrintError stack msg stat, p.InBounds) ↔ msg.length.toNat ≤ 33 := by
  have hdecimal := length_decimal_le msg.instIdx
  have hstatus := length_statusText_le stat
  have herrors : ∀ shown : List (List Char), ∀ p ∈ shown.map (consolePrintError stack),
      p.InBounds := by
    intro shown p hp
    obtain ⟨string, -, rfl⟩ := List.mem_map.mp hp
    exact consolePrintError_inBounds string
  unfold canPrintError
  dsimp only
  rw [List.forall_mem_cons, and_iff_left (herrors _)]
  show (printMessage _ _ _ _ _).InBounds ↔ _
  rw [printMessage_inBounds, length_messageLine]
  simp [newLine]
  omega

end

/-! ## Reading a print -/

/-- A message as the console has it. -/
structure PrintedMessage where
  id : UInt32
  data : List UInt8
deriving DecidableEq

/-- The message of a line and the string after it, which is the line once more
when there are no bytes. -/
def readMessage (line dump : List Char) : PrintedMessage :=
  let length := CString.value ((line.drop (line.length - 3)).take 2)
  { id := UInt32.ofNat (CString.value ((line.drop (line.length - 14)).take 8))
    data := if length = 0 then [] else CString.readDump dump }

/-- The string that an error was made of, or the string as it is. -/
def unmarked (string : List Char) : List Char :=
  if errorMark.isPrefixOf string then (string.drop 9).take (string.length - 13) else string

/-- A message on the console, and whether it was sent. -/
structure LogEntry where
  sent : Bool
  message : PrintedMessage
deriving DecidableEq

/-- The messages among the strings that were shown. What does not start a line
is an error of its own. -/
def readLog : List (List Char) → List LogEntry
  | line :: dump :: rest =>
    if newLine.isPrefixOf (unmarked line) then
      { sent := !(newLine ++ plainMark).isPrefixOf line
        message := readMessage (unmarked line) (unmarked dump) } :: readLog rest
    else readLog (dump :: rest)
  | _ => []

section
variable {stack : Nat → Char}

theorem messageLine_id (upper : Bool) (lead : List Char) (id : UInt32) (length : UInt8) :
    ((messageLine upper lead id length).drop (lead.length + 3)).take 8 =
      CString.hex upper 8 id.toNat := by
  have hline : messageLine upper lead id length = (lead ++ "\t0x".toList) ++
      (CString.hex upper 8 id.toNat ++ ("\t0x".toList ++ (CString.hex upper 2 length.toNat ++
        "\t".toList))) := by
    simp [messageLine]
  have hlead : lead.length + 3 = (lead ++ "\t0x".toList).length := by simp
  rw [hline, hlead, List.drop_left, List.take_left' (CString.length_hex 8 id.toNat)]

theorem messageLine_length (upper : Bool) (lead : List Char) (id : UInt32) (length : UInt8) :
    ((messageLine upper lead id length).drop (lead.length + 14)).take 2 =
      CString.hex upper 2 length.toNat := by
  have hline : messageLine upper lead id length =
      (lead ++ "\t0x".toList ++ CString.hex upper 8 id.toNat ++ "\t0x".toList) ++
        (CString.hex upper 2 length.toNat ++ "\t".toList) := by
    simp [messageLine]
  have hfront : lead.length + 14 =
      (lead ++ "\t0x".toList ++ CString.hex upper 8 id.toNat ++ "\t0x".toList).length := by
    simp
  rw [hline, hfront, List.drop_left, List.take_left' (CString.length_hex 2 length.toNat)]

theorem zero_notMem_messageLine (upper : Bool) {lead : List Char} (hlead : Char.ofNat 0 ∉ lead)
    (id : UInt32) (length : UInt8) : Char.ofNat 0 ∉ messageLine upper lead id length := by
  have htab : Char.ofNat 0 ∉ "\t0x".toList := by decide
  have hend : Char.ofNat 0 ∉ "\t".toList := by decide
  simp only [messageLine, List.mem_append, not_or]
  exact ⟨⟨⟨⟨⟨hlead, htab⟩, CString.zero_notMem_hex 8 id.toNat⟩, htab⟩,
    CString.zero_notMem_hex 2 length.toNat⟩, hend⟩

/-- What is shown after a line. -/
def dumped (line : List Char) (length : UInt8) (data : Bytes) : List Char :=
  if length.toNat = 0 then line
  else ((List.range length.toNat).map data).flatMap (CString.dumpByte true)

theorem printMessage_shown {size : Nat} {line : List Char} (hline : Char.ofNat 0 ∉ line)
    (length : UInt8) (data : Bytes) :
    (printMessage stack size line length data).shown = [line, dumped line length data] := by
  have hfirst : CString.read (CString.write (newBuffer stack size) 0 line) = line := by
    rw [CString.write_zero, CString.read_append_zero hline]
  unfold printMessage dumped
  dsimp only
  rw [hfirst]
  cases length.toNat with
  | zero =>
      show [line, CString.read (CString.write (newBuffer stack size) 0 line)] = _
      rw [hfirst]
      rfl
  | succ n =>
      have hzero := CString.zero_notMem_dump true ((List.range (n + 1)).map data)
      rw [List.flatMap_map] at hzero
      rw [CString.writeEach_eq (fun i => CString.length_dumpByte (data i)),
        CString.read_append_zero hzero, if_neg (Nat.succ_ne_zero n), List.flatMap_map]

/-- **A printed message reads back.** -/
theorem readMessage_line (upper : Bool) (lead : List Char) (id : UInt32) (length : UInt8)
    (data : Bytes) :
    readMessage (messageLine upper lead id length)
        (dumped (messageLine upper lead id length) length data) =
      { id := id, data := (List.range length.toNat).map data } := by
  have hid : ((messageLine upper lead id length).drop
      ((messageLine upper lead id length).length - 14)).take 8 =
        CString.hex upper 8 id.toNat := by
    rw [length_messageLine]
    exact messageLine_id upper lead id length
  have hlength : ((messageLine upper lead id length).drop
      ((messageLine upper lead id length).length - 3)).take 2 =
        CString.hex upper 2 length.toNat := by
    rw [length_messageLine]
    exact messageLine_length upper lead id length
  have hvalue : CString.value (CString.hex upper 2 length.toNat) = length.toNat :=
    CString.value_hex_of_lt length.toNat_lt
  rw [readMessage, hid, hlength, hvalue, CString.value_hex_of_lt id.toNat_lt,
    UInt32.ofNat_toNat]
  unfold dumped
  split
  · rename_i hzero
    rw [hzero]
    rfl
  · rw [CString.readDump_dump]

theorem unmarked_of_head {string : List Char}
    (h : ∀ c, string.head? = some c → c ≠ '\x1b') : unmarked string = string := by
  cases string with
  | nil => rfl
  | cons c string =>
      have hc : '\x1b' ≠ c := (h c rfl).symm
      unfold unmarked
      rw [if_neg]
      simp [errorMark, List.isPrefixOf, hc]

/-- What `CONSOLE_printError` shows. -/
theorem consolePrintError_shown {string : List Char} (hstring : Char.ofNat 0 ∉ string) :
    (consolePrintError stack string).shown = [errorMark ++ string ++ plainMark] := by
  have hstart : Char.ofNat 0 ∉ errorMark := by decide
  have hend : Char.ofNat 0 ∉ plainMark := by decide
  have htext : Char.ofNat 0 ∉ errorMark ++ string ++ plainMark := by
    simp only [List.mem_append, not_or]
    exact ⟨⟨hstart, hstring⟩, hend⟩
  show [CString.read (CString.write (newBuffer stack _) 0
    (errorMark ++ string ++ plainMark))] = _
  rw [CString.write_zero, CString.read_append_zero htext]

theorem unmarked_error (string : List Char) :
    unmarked (errorMark ++ string ++ plainMark) = string := by
  have hmark : errorMark.isPrefixOf (errorMark ++ string ++ plainMark) = true := by
    rw [List.isPrefixOf_iff_prefix, List.append_assoc]
    exact List.prefix_append _ _
  rw [unmarked, if_pos hmark]
  simp [errorMark, plainMark]

/-! ### Strings in the log -/

theorem readLog_line {string dump : List Char} (h : newLine.isPrefixOf (unmarked string) = true)
    (rest : List (List Char)) :
    readLog (string :: dump :: rest) =
      { sent := !(newLine ++ plainMark).isPrefixOf string
        message := readMessage (unmarked string) (unmarked dump) } :: readLog rest := by
  rw [readLog, if_pos h]

theorem readLog_other {string : List Char} (h : newLine.isPrefixOf (unmarked string) = false)
    (rest : List (List Char)) : readLog (string :: rest) = readLog rest := by
  cases rest with
  | nil => rfl
  | cons dump rest => rw [readLog, if_neg (by simp [h])]

/-- A line that is shown as it is. -/
theorem unmarked_line (upper : Bool) (lead : List Char) (id : UInt32) (length : UInt8) :
    unmarked (messageLine upper (newLine ++ lead) id length) =
      messageLine upper (newLine ++ lead) id length := by
  apply unmarked_of_head
  rintro c ⟨⟩
  decide

theorem newLine_isPrefixOf_line (upper : Bool) (lead : List Char) (id : UInt32)
    (length : UInt8) :
    newLine.isPrefixOf (messageLine upper (newLine ++ lead) id length) = true := by
  rw [List.isPrefixOf_iff_prefix]
  unfold messageLine
  simp only [List.append_assoc]
  exact List.prefix_append _ _

theorem unmarked_dumped {line : List Char} (hline : unmarked line = line) (length : UInt8)
    (data : Bytes) : unmarked (dumped line length data) = dumped line length data := by
  unfold dumped
  split
  · exact hline
  · apply unmarked_of_head
    rintro c hc rfl
    exact absurd (CString.isAlphanum_of_head_dump hc) (by decide)

/-- A message in the log. -/
theorem readLog_printMessage {upper : Bool} {lead : List Char}
    (hlead : Char.ofNat 0 ∉ newLine ++ lead) (size : Nat) (id : UInt32) (length : UInt8)
    (data : Bytes) (rest : List (List Char)) :
    readLog ((printMessage stack size (messageLine upper (newLine ++ lead) id length) length
        data).shown ++ rest) =
      { sent := !(newLine ++ plainMark).isPrefixOf (messageLine upper (newLine ++ lead) id length)
        message := { id := id, data := (List.range length.toNat).map data } } ::
        readLog rest := by
  have hline := unmarked_line upper lead id length
  have hnew : newLine.isPrefixOf (unmarked (messageLine upper (newLine ++ lead) id length)) =
      true := by
    rw [hline, newLine_isPrefixOf_line]
  rw [printMessage_shown (zero_notMem_messageLine upper hlead id length)]
  show readLog (_ :: _ :: rest) = _
  rw [readLog_line hnew, hline, unmarked_dumped hline, readMessage_line]

/-- A message in the log that is an error. -/
theorem readLog_printError {upper : Bool} {lead : List Char}
    (hlead : Char.ofNat 0 ∉ newLine ++ lead) (size : Nat) (id : UInt32) (length : UInt8)
    (data : Bytes) (rest : List (List Char)) :
    readLog (((printMessage stack size (messageLine upper (newLine ++ lead) id length) length
        data).shown.map (consolePrintError stack)).flatMap Printout.shown ++ rest) =
      { sent := true
        message := { id := id, data := (List.range length.toNat).map data } } ::
        readLog rest := by
  have hzero := zero_notMem_messageLine upper hlead id length
  have hdump : Char.ofNat 0 ∉ dumped (messageLine upper (newLine ++ lead) id length) length
      data := by
    unfold dumped
    split
    · exact hzero
    · exact CString.zero_notMem_dump true _
  have hnew : newLine.isPrefixOf (unmarked (errorMark ++
      messageLine upper (newLine ++ lead) id length ++ plainMark)) = true := by
    rw [unmarked_error, newLine_isPrefixOf_line]
  rw [printMessage_shown hzero]
  simp only [List.map_cons, List.map_nil, List.flatMap_cons, List.flatMap_nil,
    consolePrintError_shown hzero, consolePrintError_shown hdump]
  show readLog (_ :: _ :: rest) = _
  rw [readLog_line hnew, unmarked_error, unmarked_error, readMessage_line]
  rfl

/-- An error of its own. -/
theorem readLog_consolePrintError {string : List Char} (hzero : Char.ofNat 0 ∉ string)
    (hnew : newLine.isPrefixOf string = false) (rest : List (List Char)) :
    readLog ((consolePrintError stack string).shown ++ rest) = readLog rest := by
  rw [consolePrintError_shown hzero]
  exact readLog_other (by rw [unmarked_error, hnew]) rest

end

/-! ### Messages in the log -/

section
variable {labels : UInt32 → CString} {stack : Nat → Char}

theorem zero_notMem_decimal (n : UInt32) : Char.ofNat 0 ∉ decimal n := by
  have hdigits : ∀ k, Char.ofNat 0 ∉ Nat.toDigits 10 k := by
    intro k hmem
    exact absurd (Nat.isDigit_of_mem_toDigits (by omega) (by omega) hmem) (by decide)
  unfold decimal
  split
  · exact hdigits _
  · intro hmem
    rcases List.mem_cons.mp hmem with hmem | hmem
    · exact absurd hmem (by decide)
    · exact hdigits _ hmem

theorem zero_notMem_messageLabel (labels : UInt32 → CString) (id : UInt32) :
    Char.ofNat 0 ∉ messageLabel labels id := by
  unfold messageLabel
  split
  · exact (labels _).noZero
  · split
    · decide
    · split <;> decide

/-- `PDU_printPDU` in the log. -/
theorem readLog_pduPrintout (pdu : Pdu) (data : Bytes) (rest : List (List Char)) :
    readLog ((pduPrintout labels stack pdu false data).shown ++ rest) =
      { sent := false
        message := { id := pdu.id, data := (List.range pdu.length.toNat).map data } } ::
        readLog rest := by
  have hlabel := zero_notMem_messageLabel labels pdu.id
  unfold pduPrintout
  simp only [List.append_assoc]
  rw [readLog_printMessage]
  · rfl
  · simp only [List.mem_append, not_or]
    exact ⟨by decide, by decide, by decide, by decide, by decide, hlabel⟩

/-- A message of `CAN_sendFrame` in the log, whatever became of it. -/
theorem readLog_canSendPrintouts {msg : CanSend} (hpayload : msg.payload.length = msg.length.toNat)
    (stat : SendStatus) (rest : List (List Char)) :
    readLog ((canSendPrintouts labels stack msg stat).flatMap Printout.shown ++ rest) =
      { sent := true, message := { id := msg.id, data := msg.payload } } :: readLog rest := by
  have hdata : (List.range msg.length.toNat).map (fun i => msg.payload.getD i 0) =
      msg.payload := by
    apply List.ext_getElem
    · simp [hpayload]
    · intro i _ hi
      simp [hi]
  have hlabel := zero_notMem_messageLabel labels msg.id
  have hdecimal := zero_notMem_decimal msg.instIdx
  unfold canSendPrintouts
  split
  · rw [List.flatMap_singleton]
    unfold canPrintFrame
    simp only [List.append_assoc]
    rw [readLog_printMessage, hdata]
    · rfl
    · simp only [List.mem_append, not_or]
      exact ⟨by decide, by decide, by decide, hdecimal, by decide, by decide, by decide, hlabel⟩
  · have hstatus : Char.ofNat 0 ∉ stat.text := by cases stat <;> decide
    unfold canPrintError
    simp only [List.append_assoc, List.flatMap_cons, List.nil_append]
    rw [readLog_printError, hdata]
    simp only [List.mem_append, not_or]
    exact ⟨by decide, by decide, hdecimal, by decide, hstatus⟩

/-- What `PDU_Task` prints on a PDU in the log: errors are no messages. -/
theorem readLog_dispatchPrintouts (s : Gateway) (pdu : Pdu) (rest : List (List Char)) :
    readLog ((s.dispatchPrintouts labels stack pdu).flatMap Printout.shown ++ rest) =
      { sent := false
        message :=
          { id := pdu.id
            data := (List.range pdu.length.toNat).map (s.mem.byteAt (pdu.byte 0)) } } ::
        readLog rest := by
  unfold Gateway.dispatchPrintouts
  rw [List.flatMap_cons, List.append_assoc, readLog_pduPrintout]
  congr 1
  have herror : ∀ (q : RtosQueue) (string : List Char), Char.ofNat 0 ∉ string →
      newLine.isPrefixOf string = false →
      readLog ((if q.Full then [consolePrintError stack string] else []).flatMap Printout.shown ++
        rest) = readLog rest := by
    intro q string hzero hnew
    split
    · rw [List.flatMap_singleton]
      exact readLog_consolePrintError hzero hnew rest
    · rfl
  cases pduType pdu.id with
  | command => exact herror s.gatewayQueue _ (by decide) (by decide)
  | firmware => exact herror s.fwUpdateQueue _ (by decide) (by decide)
  | _ => rfl

end

end XcanRouter
