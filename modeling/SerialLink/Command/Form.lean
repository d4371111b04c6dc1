import SerialLink.Command.Table
import SerialLink.Text.Utf8

/-!
The form of a command on the line, as a relation between bytes and what they carry. Nothing here
reads: a form is any bytes put together as its field says.
-/
namespace SerialLink

/-- The bytes are a form of the field, from first to last, and carry the value. -/
inductive Field.Carries : Field → Bytes → Value → Prop where
  /-- A word: as many bytes as it is wide, least significant first. -/
  | word {width : Width} {bytes : Bytes} (length : bytes.length = width.bytes) :
    Carries (.word width) bytes (.ofNat (ofLittleEndian bytes) width)
  /-- Text and the zero byte that closes it. -/
  | text {bytes : Bytes} (inner : 0 ∉ bytes) :
    Carries .text (bytes ++ [0]) (.text (Utf8.decode bytes))
  /-- A count and that many words. -/
  | words {width : Width} {count : UInt8} {items : List Bytes} (number : items.length = count.toNat)
    (length : ∀ bytes ∈ items, bytes.length = width.bytes) :
    Carries (.words width) (count :: items.flatten)
      (.words (items.map fun bytes => .ofNat (ofLittleEndian bytes)))
  /-- A length and that many bytes. -/
  | data {bytes : Bytes} (length : bytes.length ≤ Command.maxData) :
    Carries .data (littleEndian 2 bytes.length ++ bytes) (.data bytes)

/-- The bytes start with one form for each field of the layout, and these carry the values. Where
fields may be missing, a word that does not fit any more takes the bytes that are left, and is
zero. -/
inductive Layout.Carries (mayMiss : Bool) : Layout → Bytes → List Value → Prop where
  | nil {rest : Bytes} : Carries mayMiss [] rest []
  | cons {field : Field} {layout : Layout} {form rest : Bytes} {value : Value}
    {values : List Value} (head : field.Carries form value)
    (tail : Carries mayMiss layout rest values) :
    Carries mayMiss (field :: layout) (form ++ rest) (value :: values)
  | missing {width : Width} {layout : Layout} {bytes : Bytes} {values : List Value}
    (may : mayMiss = true) (short : bytes.length < width.bytes)
    (tail : Carries mayMiss layout [] values) :
    Carries mayMiss (.word width :: layout) bytes (Value.zero (.word width) :: values)

/-- The bytes carry the command: its header, the length of all if there are bytes for it, and its
fields. Only a device status report may miss fields. -/
inductive CommandTable.Carries (table : CommandTable) : Bytes → Command → Prop where
  | long {command : Command} {layout : Layout} {fields : Bytes}
    (known : table.layout? command.id = some layout)
    (length : Command.prologueLength + fields.length < 65536)
    (carried : layout.Carries (command.id == Command.deviceStatus) fields command.values) :
    Carries table
      ([command.id, command.seq, command.status] ++
        littleEndian 2 (Command.prologueLength + fields.length) ++ fields) command
  | short {command : Command} {layout : Layout} {fields : Bytes}
    (known : table.layout? command.id = some layout) (length : fields.length < 2)
    (carried : layout.Carries (command.id == Command.deviceStatus) fields command.values) :
    Carries table ([command.id, command.seq, command.status] ++ fields) command

end SerialLink
