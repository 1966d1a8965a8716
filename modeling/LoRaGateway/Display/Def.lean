/-
  LoRaGateway.Display.Def
  ───────────────────────
  **THE DISPLAY DRIVER** of `Driver/ssd1306.c`: cursor, rows and texts, and the two
  users of the display: `PUT_NODE_INFO`, and the work that runs every minute.

  The mutex covers one I2C transfer, so a function is a `Program` over single
  transfers and single accesses to `current_X` and `current_Y`.  The `kmalloc` of
  `ssd1306_burst_write` is taken to succeed, and a text is what `sprintf` prints,
  whatever the size of the array it is printed to (see `Display.LineBuffers`).

    • `showLastestNodeInfo`, `getinfo` — what the two users do.
-/
import LoRaGateway.Driver.Modem
import LoRaGateway.Display.Font
import LoRaGateway.Display.Panel

namespace LoRaGateway

open LoRaGateway.Lib

/-! ## §1. Operations. -/

/-- What the driver does outside its own memory: an I2C transfer, and the accesses to
`current_x` and `current_y`. -/
inductive OledOp where
  | transfer (mode : WriteMode) (bytes : List UInt8)
  | getX
  | setX (x : UInt8)
  | getY
  | setY (y : UInt8)
  deriving DecidableEq

/-- What comes back. -/
def OledOp.Resp : OledOp → Type
  | .getX | .getY => UInt8
  | _ => Unit

/-- A program stops when it looks up a character outside the font. -/
inductive OutsideFont where
  | glyph (data : UInt8)

/-- Code of the driver. -/
abbrev Oled (α : Type) : Type := Program OledOp OledOp.Resp OutsideFont α

/-- The chip, and the fields of `struct ssd1306` that the updates share. -/
structure Screen where
  panel : Panel
  currentX : UInt8
  currentY : UInt8

/-- One operation, on the display. -/
def screen (s : Screen) : (o : OledOp) → o.Resp × Screen
  | .transfer mode bytes => ((), { s with panel := s.panel.transfer mode bytes })
  | .getX => (s.currentX, s)
  | .setX x => ((), { s with currentX := x })
  | .getY => (s.currentY, s)
  | .setY y => ((), { s with currentY := y })

namespace Oled

/-- `oled->current_x`. -/
def getX : Oled UInt8 := Program.perform OledOp.getX

/-- `oled->current_x = x`. -/
def setX (x : UInt8) : Oled Unit := Program.perform (OledOp.setX x)

/-- `oled->current_y`. -/
def getY : Oled UInt8 := Program.perform OledOp.getY

/-- `oled->current_y = y`. -/
def setY (y : UInt8) : Oled Unit := Program.perform (OledOp.setY y)

end Oled

open Oled (getX setX getY setY)

/-! ## §2. Cursor, glyphs and rows. -/

/-- `max_X`: a row has this many glyphs. -/
def maxX : UInt8 := 20

/-- `max_Y`. -/
def maxY : UInt8 := 7

/-- `color_t`. -/
inductive Color where
  | black
  | white
  deriving DecidableEq

/-- `ssd1306_write`: one byte. -/
def ssd1306Write (data : UInt8) (mode : WriteMode) : Oled Unit :=
  Program.perform (OledOp.transfer mode [data])

/-- `ssd1306_burst_write`: all bytes in one transfer. -/
def ssd1306BurstWrite (data : List UInt8) (mode : WriteMode) : Oled Unit :=
  Program.perform (OledOp.transfer mode data)

/-- `ssd1306_goto_xy`: the window from this cell to the end of the screen. -/
def ssd1306GotoXy (x y : UInt8) : Oled Unit := do
  ssd1306Write 0x21 .command
  ssd1306Write (x * 6) .command
  ssd1306Write 127 .command
  ssd1306Write 0x22 .command
  ssd1306Write y .command
  ssd1306Write maxY .command
  setX x
  setY y

/-- `n` zero bytes, each in a transfer of its own. -/
def writeZeros : Nat → Oled Unit
  | 0 => return ()
  | n + 1 => do
      ssd1306Write 0 .data
      writeZeros n

/-- `ssd1306_clear_row`: twenty blank characters. -/
def ssd1306ClearRow (row : UInt8) : Oled Unit := do
  if row ≤ maxY then
    ssd1306GotoXy 0 row
    writeZeros (20 * fontX)

/-- The zeros go wherever the window is. -/
def ssd1306Clear : Oled Unit := do
  writeZeros 1024
  ssd1306GotoXy 0 0

/-- The commands of `ssd1306_init`; `0x20, 0x00` is the horizontal addressing mode. -/
def initCommands : List UInt8 :=
  [0xD5, 0x80, 0xA8, 0x3F, 0xD3, 0x00, 0x40, 0x8D, 0x14, 0x20, 0x00, 0xA0, 0xC0, 0xDA, 0x12,
    0x81, 0x7F, 0xD9, 0xF1, 0xDB, 0x20, 0xA4, 0xA6, 0xA0, 0x2E, 0xAF]

/-- One command byte after the other, each in a transfer of its own. -/
def writeCommands : List UInt8 → Oled Unit
  | [] => return ()
  | c :: cs => do
      ssd1306Write c .command
      writeCommands cs

/-- `ssd1306_init`. -/
def ssd1306Init : Oled Unit := do
  writeCommands initCommands
  ssd1306Clear

/-- `ssd1306_go_to_next_line`; behind the last row comes the first. -/
def ssd1306GoToNextLine : Oled Unit := do
  let y ← getY
  setY (if y = maxY then 0 else y + 1)
  ssd1306GotoXy 0 (← getY)

/-- `ssd1306_send_char`; `ssd1306_send_char_inv` sends the complement of the glyph. -/
def ssd1306SendChar (data : UInt8) (color : Color) : Oled Unit := do
  if (← getX) = maxX then ssd1306GoToNextLine
  let columns ← Program.ofOption (.glyph data) (glyph data)
  ssd1306BurstWrite (if color = .white then columns else columns.map (~~~ ·)) .data
  setX ((← getX) + 1)

/-- `ssd1306_send_string`, of a text without its NUL. -/
def ssd1306SendString : List UInt8 → Color → Oled Unit
  | [], _ => return ()
  | data :: str, color => do
      ssd1306SendChar data color
      ssd1306SendString str color

/-! ## §3. Lines. -/

/-- `line_t`. -/
inductive LineT where
  | lora
  | wifi
  | wallTime
  | cpuTemp
  | numberOfNode
  | lastIdHandled
  | brightness
  | mode
  deriving DecidableEq

/-- The value of the enumerator, which is the row of the line. -/
def LineT.row : LineT → UInt8
  | .lora => 0
  | .wifi => 1
  | .wallTime => 2
  | .cpuTemp => 3
  | .numberOfNode => 4
  | .lastIdHandled => 5
  | .brightness => 6
  | .mode => 7

/-- The row is cleared, and a text is printed at its start. -/
def renew (line : LineT) (text : List UInt8) : Oled Unit := do
  ssd1306ClearRow line.row
  ssd1306GotoXy 0 line.row
  ssd1306SendString text .white

/-! ## §4. `PUT_NODE_INFO`. -/

/-! The texts, as `sprintf` prints them. -/

/-- `"Manager: %d node"`. -/
def managerText (nodeCount : UInt32) : List UInt8 :=
  ascii "Manager: " ++ printId nodeCount ++ ascii " node"

/-- `"Last ID: %d"`. -/
def lastIdText (id : UInt32) : List UInt8 := ascii "Last ID: " ++ printId id

/-- `"Brightness: %d"`. -/
def brightnessText (illuminance : UInt8) : List UInt8 :=
  ascii "Brightness: " ++ decimalNat illuminance.toNat

/-- `AUTO` is 0. -/
def modeText (mode : UInt32) : List UInt8 :=
  ascii "Mode: " ++ (if mode = 0 then ascii "Auto" else ascii "Manual")

/-- `show_lastest_node_info`, the whole of `PUT_NODE_INFO`. -/
def showLastestNodeInfo (node : NodeInfo) : Oled Unit := do
  renew .numberOfNode (managerText node.nodeCount)
  renew .lastIdHandled (lastIdText node.id)
  renew .brightness (brightnessText node.illuminance)
  renew .mode (modeText node.mode)

/-! ## §5. The periodic work. -/

/-- What `get_network_ip_by_name` finds of the interface. -/
inductive Network where
  | absent
  /-- no `in_device` -/
  | unconfigured
  | address (a b c d : UInt8)

/-- What `getinfo` reads: the interface, `ktime_get_real` in seconds, the temperature
and the status of the radio; `none` where its function returns without printing. -/
structure Readings where
  wlan0 : Network
  seconds : Nat
  cpuTemperature : Option Int32
  loraStatus : Option LoRaStatus

/-- `%2d`. -/
def padded (n : Nat) : List UInt8 :=
  List.replicate (2 - (decimalNat n).length) 32 ++ decimalNat n

/-- `%pI4`. -/
def ipText (a b c d : UInt8) : List UInt8 :=
  ascii "IP: " ++ decimalNat a.toNat ++ 46 :: decimalNat b.toNat ++ 46 :: decimalNat c.toNat
    ++ 46 :: decimalNat d.toNat

/-- `get_time_of_day` adds seven hours. -/
def wallTimeText (seconds : Nat) : List UInt8 :=
  let seconds := seconds + 7 * 3600
  ascii "Wall Time: " ++ padded (seconds / 3600 % 24) ++ 58 :: padded (seconds / 60 % 60)

/-- `"CPU Temp: %d*C"`; the sensor counts in thousandths. -/
def temperatureText (cpuTemperature : Int32) : List UInt8 :=
  ascii "CPU Temp: " ++ decimal (cpuTemperature.toInt.tdiv 1000) ++ ascii "*C"

/-- `"LoRa is %s!"`. -/
def loraText (status : LoRaStatus) : List UInt8 :=
  ascii "LoRa is " ++ (if status = .ok then ascii "Okay" else ascii "Disabled") ++ ascii "!"

/-- `get_network_ip_by_name`; an interface without an address leaves the line as it is. -/
def getNetworkIpByName (wlan0 : Network) (line : LineT) : Oled Unit :=
  match wlan0 with
  | .absent => renew line (ascii "WIFI is disable!")
  | .unconfigured => return ()
  | .address a b c d => renew line (ipText a b c d)

/-- The row is not cleared here. -/
def printTime (seconds : Nat) (line : LineT) : Oled Unit := do
  ssd1306GotoXy 0 line.row
  ssd1306SendString (wallTimeText seconds) .white

/-- `get_cpu_temperature_and_print`; it prints nothing when the sensor cannot be read. -/
def getCpuTemperatureAndPrint (cpuTemperature : Option Int32) (line : LineT) : Oled Unit :=
  match cpuTemperature with
  | none => return ()
  | some t => renew line (temperatureText t)

/-- `get_lora_status_and_print`; it prints nothing without a driver of the modem. -/
def getLoraStatusAndPrint (status : Option LoRaStatus) (line : LineT) : Oled Unit :=
  match status with
  | none => return ()
  | some s => renew line (loraText s)

/-- `getinfo`, the work of every minute. -/
def getinfo (r : Readings) : Oled Unit := do
  getNetworkIpByName r.wlan0 .wifi
  printTime r.seconds .wallTime
  getCpuTemperatureAndPrint r.cpuTemperature .cpuTemp
  getLoraStatusAndPrint r.loraStatus .lora

end LoRaGateway
