import IdentityCrates.Lib.Journal
import IdentityCrates.Lib.Machine
import IdentityCrates.Dmrtd.Proto.Card

/-!
# A session over a channel that is not trusted

A terminal and a chip with an open secure messaging session, and between them a channel that may
drop, repeat, hold back, alter and make up messages as it likes.  What happens is a list of events
in any order: the terminal is asked to send a command, and the channel hands either side some bytes.

The terminal's part is `transceive_cmd`, cut at the call of the transport: `protect` before it,
`from_bytes`, `unprotect` and the look at the status word after it.  A command that is still
waited for when the next is sent has failed in the transport.

Each side keeps a journal under the counter of its messages.  No step reads a journal: they only say
what has happened.
-/

namespace Dmrtd

open Rust Octets

/-- What the applications of a chip answer to a command, and how the data are wrapped. -/
structure Answer where
  useDo85 : Bool
  sw : StatusWord
  data : Bytes
  deriving DecidableEq, Repr

/-- The answer as the terminal should see it. -/
def Answer.response (answer : Answer) : ResponseApdu :=
  ⟨answer.sw, if answer.data = [] then none else some answer.data⟩

/-- The command a protected one stands for, as a chip can recover it: the class byte is without its
secure messaging bits. -/
def CommandApdu.meant (cmd : CommandApdu) : CommandApdu.Wire :=
  ⟨Chip.plainHeader cmd.rawHeader, cmd.body, cmd.ne⟩

/-- What the terminal did: sent a command, or handed its caller a response to one. -/
inductive TerminalEntry where
  | sent (cmd : CommandApdu)
  | received (cmd : CommandApdu) (rapdu : ResponseApdu)

/-- What the chip did: accepted a command, or answered one. -/
inductive ChipEntry where
  | accepted (wire : CommandApdu.Wire)
  | answered (wire : CommandApdu.Wire) (answer : Answer)

namespace TerminalEntry

/-- The command that was sent. -/
def sent? : TerminalEntry → Option CommandApdu.Wire
  | sent cmd => some cmd.meant
  | received _ _ => none

/-- The response that was received, and the command it was received for. -/
def received? : TerminalEntry → Option (CommandApdu.Wire × ResponseApdu)
  | sent _ => none
  | received cmd rapdu => some (cmd.meant, rapdu)

end TerminalEntry

namespace ChipEntry

/-- The command that was accepted. -/
def accepted? : ChipEntry → Option CommandApdu.Wire
  | accepted wire => some wire
  | answered _ _ => none

/-- The answer that was given, and the command it was given to. -/
def answered? : ChipEntry → Option (CommandApdu.Wire × ResponseApdu)
  | accepted _ => none
  | answered wire answer => some (wire, answer.response)

end ChipEntry

/-- The two sides of a session, the command whose response the terminal waits for, and what has
happened so far. -/
structure Conversation where
  terminal : MrtdSM
  chip : Chip
  awaiting : Option CommandApdu
  said : Journal TerminalEntry
  heard : Journal ChipEntry

namespace Conversation

/-- A session that has just been opened. -/
def start (cipher : SmCipher) (ssc : Ssc) : Conversation where
  terminal := ⟨cipher, ssc⟩
  chip := ⟨cipher, ssc⟩
  awaiting := none
  said := .empty
  heard := .empty

/-- One event. -/
inductive Event where
  | command (cmd : CommandApdu)
  | toChip (bytes : Bytes) (answer : Answer)
  | toTerminal (bytes : Bytes)

/-- `transceive_cmd` up to the transport. -/
def send (cmd : CommandApdu) (c : Conversation) : Option Bytes × Conversation :=
  match MrtdSM.protect cmd c.terminal with
  | (.ok wire, sm) =>
    (some wire.toBytes,
      { c with terminal := sm, awaiting := some cmd, said := c.said.record (.sent cmd) })
  | (_, sm) => (none, { c with terminal := sm, awaiting := none, said := c.said.tick })

/-- The chip receives some bytes and answers a command it accepts. -/
def serve (bytes : Bytes) (answer : Answer) (c : Conversation) : Option Bytes × Conversation :=
  match c.chip.receive bytes with
  | (some wire, chip) =>
    let heard := c.heard.record (.accepted wire)
    match chip.respond answer.useDo85 answer.sw answer.data with
    | (some back, chip) =>
      (some back, { c with chip := chip, heard := heard.record (.answered wire answer) })
    | (none, chip) => (none, { c with chip := chip, heard := heard.tick })
  | (none, chip) => (none, { c with chip := chip, heard := c.heard.tick })

/-- `transceive_cmd` from the transport's return on. -/
def finish (cmd : CommandApdu) (bytes : Bytes) (c : Conversation) : Conversation :=
  match ResponseApdu.fromBytes bytes with
  | .ok rapdu =>
    let unwrapped := MrtdSM.unprotect rapdu c.terminal
    let after := if MrtdSM.hasBody rapdu then c.said.tick else c.said
    { c with
      terminal := unwrapped.2
      awaiting := none
      said := match unwrapped.1 with
        | .ok r => if r.status = StatusWord.success then c.said.record (.received cmd r) else after
        | _ => after }
  | _ => { c with awaiting := none }

/-- One event, and the bytes it puts on the channel.  Bytes for a terminal that waits for none are
lost. -/
def step : Event → Conversation → Option Bytes × Conversation
  | .command cmd, c => c.send cmd
  | .toChip bytes answer, c => c.serve bytes answer
  | .toTerminal bytes, c =>
    match c.awaiting with
    | some cmd => (none, c.finish cmd bytes)
    | none => (none, c)

end Conversation

/-! ## What a MAC vouches for -/

/-- What the MAC of a protected command is computed over: the padding of counter, padded header and
data objects. -/
def MrtdSM.commandInput (sm : MrtdSM) (cmd : CommandApdu) : Outcome SmError Bytes := do
  let masked := { cmd with cla := maskCla cmd.cla }
  let dataDo ← sm.generateDataDo masked
  let do97 ← Sm.do97 masked.ne
  let m ← sm.generateM masked dataDo do97
  sm.generateN m

/-- The MAC input of some bytes for the terminal whose `DO'8E'` is its MAC. -/
def MrtdSM.vouchedInput (sm : MrtdSM) (bytes : Bytes) : Option Bytes := do
  let rapdu ← (ResponseApdu.fromBytes bytes).toOption
  let dataDo ← (parseDataDo rapdu).toOption
  let do99 ← (parseDo99 rapdu (encodedLen dataDo)).toOption
  let do8e ← (parseDo8e rapdu (encodedLen dataDo + do99.encodedLen)).toOption
  let body ← rapdu.data
  let k ← (sm.generateK (body.take (encodedLen dataDo + do99.encodedLen))).toOption
  let cc ← (sm.cipher.mac k).toOption
  guard (cc = do8e.value)
  return k

namespace Chip

/-- What the MAC of an answer is computed over: the padding of counter and data objects. -/
def answerInput (chip : Chip) (answer : Answer) : Option Bytes := do
  let dataDo ← chip.sealData answer.useDo85 answer.data
  let do99 ← encodeDo 0x99 answer.sw.toBytes
  (Iso9797.pad (chip.ssc.toBytes ++ (dataDo ++ do99)) chip.blockSize).toOption

/-- The MAC input of some bytes for the chip whose `DO'8E'` is its MAC. -/
def vouchedInput (chip : Chip) (bytes : Bytes) : Option Bytes := do
  let apdu ← CommandApdu.parse bytes
  let (_, rest₁) ← takeDo [0x85, 0x87] apdu.body
  let (_, rest₂) ← takeDo [0x97] rest₁
  let (macTv, _) ← takeDo [0x8E] rest₂
  let macTv ← macTv
  let covered := apdu.body.take (apdu.body.length - rest₂.length)
  let header ← (Iso9797.pad apdu.header chip.blockSize).toOption
  let n ← (Iso9797.pad (chip.ssc.toBytes ++ (header ++ covered)) chip.blockSize).toOption
  let cc ← (chip.cipher.mac n).toOption
  guard (cc = macTv.value)
  return n

end Chip

/-- What the terminal authenticated by an entry. -/
def TerminalEntry.input (cipher : SmCipher) (ssc : Ssc) : ℕ × TerminalEntry → Option Bytes
  | (n, .sent cmd) => ((MrtdSM.mk cipher (Ssc.increment^[n] ssc)).commandInput cmd).toOption
  | (_, .received _ _) => none

/-- What the chip authenticated by an entry. -/
def ChipEntry.input (cipher : SmCipher) (ssc : Ssc) : ℕ × ChipEntry → Option Bytes
  | (_, .accepted _) => none
  | (n, .answered _ answer) => (Chip.mk cipher (Ssc.increment^[n] ssc)).answerInput answer

namespace Conversation

/-- Everything that was authenticated under the key of a session so far. -/
def issued (cipher : SmCipher) (ssc : Ssc) (c : Conversation) : List Bytes :=
  c.said.entries.filterMap (TerminalEntry.input cipher ssc) ++
    c.heard.entries.filterMap (ChipEntry.input cipher ssc)

/-- No MAC is forged: bytes with a MAC that the side they are handed to finds correct carry the MAC
of something that one of the two sides has authenticated. -/
def Unforged (cipher : SmCipher) (ssc : Ssc) (c : Conversation) : Event → Prop
  | .command _ => True
  | .toChip bytes _ => ∀ n ∈ c.chip.advance.vouchedInput bytes, n ∈ c.issued cipher ssc
  | .toTerminal bytes => ∀ k ∈ c.terminal.advance.vouchedInput bytes, k ∈ c.issued cipher ssc

instance (cipher : SmCipher) (ssc : Ssc) (c : Conversation) :
    ∀ event, Decidable (c.Unforged cipher ssc event)
  | .command _ => inferInstanceAs (Decidable True)
  | .toChip _ _ => inferInstanceAs (Decidable (∀ n ∈ _, n ∈ _))
  | .toTerminal _ => inferInstanceAs (Decidable (∀ k ∈ _, k ∈ _))

/-- The commands are such as `CommandApdu::new` makes. -/
def Event.InLimits : Event → Prop
  | .command cmd => cmd.InLimits
  | .toChip _ _ => True
  | .toTerminal _ => True

instance : DecidablePred Event.InLimits
  | .command cmd => inferInstanceAs (Decidable cmd.InLimits)
  | .toChip _ _ => inferInstanceAs (Decidable True)
  | .toTerminal _ => inferInstanceAs (Decidable True)

end Conversation

end Dmrtd
