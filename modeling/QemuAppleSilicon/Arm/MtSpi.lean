import Mathlib.Data.UInt
import QemuAppleSilicon.Lib.BigEndian

/-!
# The multitouch controller on the SPI bus (`hw/arm/apple-silicon/mt-spi.c`)

The host clocks bytes in one at a time through `apple_mt_spi_transfer`, which appends each to the
`rx` buffer and answers with the next byte of `tx`. The first byte of a frame picks the protocol:
`0xEF` (the low byte of the firmware preamble) starts a link-layer frame, anything else an HBPP
command whose first byte is its packet type. Each handler sets the capacity of `rx` to the frame
length it expects, and the frame ends (and `rx` is freed) once `rx` is full. Replies wait in
`pending_hbpp` and `pending_fw`; mouse events and the touch timers queue path updates there.

Every buffer helper's `g_assert` is modelled: a handler returns `none` where one fails, and where
a division by zero would trap.

* `appleMtSpiTransfer_hbpp_data_first`, `_next` and `_last` — the ten header bytes of an HBPP
  DATA command, from an empty `rx`: the first sets the capacity to `0xA`, the next eight only
  append, and the tenth computes the new capacity `0xA + 4 * len + 4` in 16 bits.
* `mt_spi_hbpp_data_len_truncated` — so a length word whose capacity passes `0xFFFF` is not
  rejected: the capacity wraps, and when the wrapped value is below `0xA` the assertion of
  `apple_mt_spi_buf_set_capacity` fails.
-/

namespace QemuAppleSilicon.Arm

open QemuAppleSilicon.Lib

/-! ## `util/crc16.c` -/

/-- Source: `util/crc16.c` `crc16_table`. Kind: D -/
def crc16Table : List UInt16 :=
  [0x0000, 0xC0C1, 0xC181, 0x0140, 0xC301, 0x03C0, 0x0280, 0xC241, 0xC601,
   0x06C0, 0x0780, 0xC741, 0x0500, 0xC5C1, 0xC481, 0x0440, 0xCC01, 0x0CC0,
   0x0D80, 0xCD41, 0x0F00, 0xCFC1, 0xCE81, 0x0E40, 0x0A00, 0xCAC1, 0xCB81,
   0x0B40, 0xC901, 0x09C0, 0x0880, 0xC841, 0xD801, 0x18C0, 0x1980, 0xD941,
   0x1B00, 0xDBC1, 0xDA81, 0x1A40, 0x1E00, 0xDEC1, 0xDF81, 0x1F40, 0xDD01,
   0x1DC0, 0x1C80, 0xDC41, 0x1400, 0xD4C1, 0xD581, 0x1540, 0xD701, 0x17C0,
   0x1680, 0xD641, 0xD201, 0x12C0, 0x1380, 0xD341, 0x1100, 0xD1C1, 0xD081,
   0x1040, 0xF001, 0x30C0, 0x3180, 0xF141, 0x3300, 0xF3C1, 0xF281, 0x3240,
   0x3600, 0xF6C1, 0xF781, 0x3740, 0xF501, 0x35C0, 0x3480, 0xF441, 0x3C00,
   0xFCC1, 0xFD81, 0x3D40, 0xFF01, 0x3FC0, 0x3E80, 0xFE41, 0xFA01, 0x3AC0,
   0x3B80, 0xFB41, 0x3900, 0xF9C1, 0xF881, 0x3840, 0x2800, 0xE8C1, 0xE981,
   0x2940, 0xEB01, 0x2BC0, 0x2A80, 0xEA41, 0xEE01, 0x2EC0, 0x2F80, 0xEF41,
   0x2D00, 0xEDC1, 0xEC81, 0x2C40, 0xE401, 0x24C0, 0x2580, 0xE541, 0x2700,
   0xE7C1, 0xE681, 0x2640, 0x2200, 0xE2C1, 0xE381, 0x2340, 0xE101, 0x21C0,
   0x2080, 0xE041, 0xA001, 0x60C0, 0x6180, 0xA141, 0x6300, 0xA3C1, 0xA281,
   0x6240, 0x6600, 0xA6C1, 0xA781, 0x6740, 0xA501, 0x65C0, 0x6480, 0xA441,
   0x6C00, 0xACC1, 0xAD81, 0x6D40, 0xAF01, 0x6FC0, 0x6E80, 0xAE41, 0xAA01,
   0x6AC0, 0x6B80, 0xAB41, 0x6900, 0xA9C1, 0xA881, 0x6840, 0x7800, 0xB8C1,
   0xB981, 0x7940, 0xBB01, 0x7BC0, 0x7A80, 0xBA41, 0xBE01, 0x7EC0, 0x7F80,
   0xBF41, 0x7D00, 0xBDC1, 0xBC81, 0x7C40, 0xB401, 0x74C0, 0x7580, 0xB541,
   0x7700, 0xB7C1, 0xB681, 0x7640, 0x7200, 0xB2C1, 0xB381, 0x7340, 0xB101,
   0x71C0, 0x7080, 0xB041, 0x5000, 0x90C1, 0x9181, 0x5140, 0x9301, 0x53C0,
   0x5280, 0x9241, 0x9601, 0x56C0, 0x5780, 0x9741, 0x5500, 0x95C1, 0x9481,
   0x5440, 0x9C01, 0x5CC0, 0x5D80, 0x9D41, 0x5F00, 0x9FC1, 0x9E81, 0x5E40,
   0x5A00, 0x9AC1, 0x9B81, 0x5B40, 0x9901, 0x59C0, 0x5880, 0x9841, 0x8801,
   0x48C0, 0x4980, 0x8941, 0x4B00, 0x8BC1, 0x8A81, 0x4A40, 0x4E00, 0x8EC1,
   0x8F81, 0x4F40, 0x8D01, 0x4DC0, 0x4C80, 0x8C41, 0x4400, 0x84C1, 0x8581,
   0x4540, 0x8701, 0x47C0, 0x4680, 0x8641, 0x8201, 0x42C0, 0x4380, 0x8341,
   0x4100, 0x81C1, 0x8081, 0x4040]

/-- Source: `util/crc16.c` `crc16_byte`. Kind: D -/
def crc16Byte (crc : UInt16) (data : UInt8) : UInt16 :=
  (crc >>> 8) ^^^ crc16Table.getD ((crc ^^^ data.toUInt16) &&& 0xff).toNat 0

/-- Source: `util/crc16.c` `crc16`. Kind: D -/
def crc16 (crc : UInt16) (buffer : List UInt8) : UInt16 := buffer.foldl crc16Byte crc

/-! ## `ui/input.c` -/

/-- `qemu_input_scale_axis`: a value of `[min_in, max_in]` mapped onto `[min_out, max_out]` in
64-bit arithmetic (C division truncates toward zero), returned as an `int`.
Source: `ui/input.c` `qemu_input_scale_axis`
Kind: D -/
def qemuInputScaleAxis (value minIn maxIn minOut maxOut : Int32) : Int32 :=
  let rangeIn : ℤ := maxIn.toInt - minIn.toInt
  let rangeOut : ℤ := maxOut.toInt - minOut.toInt
  if rangeIn < 1 then Int32.ofInt (minOut.toInt + rangeOut.tdiv 2)
  else Int32.ofInt (((value.toInt - minIn.toInt) * rangeOut).tdiv rangeIn + minOut.toInt)

/-! ## Constants -/

/-- Source: `hw/arm/apple-silicon/mt-spi.c` `HBPP_PACKET_RESET`. Kind: D -/
def HBPP_PACKET_RESET : UInt8 := 0x00
/-- Source: `hw/arm/apple-silicon/mt-spi.c` `HBPP_PACKET_NOP`. Kind: D -/
def HBPP_PACKET_NOP : UInt8 := 0x18
/-- Source: `hw/arm/apple-silicon/mt-spi.c` `HBPP_PACKET_INT_ACK`. Kind: D -/
def HBPP_PACKET_INT_ACK : UInt8 := 0x1A
/-- Source: `hw/arm/apple-silicon/mt-spi.c` `HBPP_PACKET_MEM_READ`. Kind: D -/
def HBPP_PACKET_MEM_READ : UInt8 := 0x1C
/-- Source: `hw/arm/apple-silicon/mt-spi.c` `HBPP_PACKET_MEM_RMW`. Kind: D -/
def HBPP_PACKET_MEM_RMW : UInt8 := 0x1E
/-- Source: `hw/arm/apple-silicon/mt-spi.c` `HBPP_PACKET_REQ_CAL`. Kind: D -/
def HBPP_PACKET_REQ_CAL : UInt8 := 0x1F
/-- Source: `hw/arm/apple-silicon/mt-spi.c` `HBPP_PACKET_DATA`. Kind: D -/
def HBPP_PACKET_DATA : UInt8 := 0x30

/-- Source: `hw/arm/apple-silicon/mt-spi.c` `HBPP_PACKET_REQ_BOOT`. Kind: D -/
def HBPP_PACKET_REQ_BOOT : UInt16 := 0x011F
/-- Source: `hw/arm/apple-silicon/mt-spi.c` `HBPP_PACKET_ACK_RD_REQ`. Kind: D -/
def HBPP_PACKET_ACK_RD_REQ : UInt16 := 0x394C
/-- Source: `hw/arm/apple-silicon/mt-spi.c` `HBPP_PACKET_ACK_NOP`. Kind: D -/
def HBPP_PACKET_ACK_NOP : UInt16 := 0x7948
/-- Source: `hw/arm/apple-silicon/mt-spi.c` `HBPP_PACKET_CAL_DONE`. Kind: D -/
def HBPP_PACKET_CAL_DONE : UInt16 := 0x6949
/-- Source: `hw/arm/apple-silicon/mt-spi.c` `HBPP_PACKET_ACK_DATA`. Kind: D -/
def HBPP_PACKET_ACK_DATA : UInt16 := 0xC14B
/-- Source: `hw/arm/apple-silicon/mt-spi.c` `HBPP_PACKET_ACK_WR_REQ`. Kind: D -/
def HBPP_PACKET_ACK_WR_REQ : UInt16 := 0xD14A

/-- Source: `hw/arm/apple-silicon/mt-spi.c` `LL_PACKET_PREAMBLE`. Kind: D -/
def LL_PACKET_PREAMBLE : UInt32 := 0xDEADBEEF
/-- Source: `hw/arm/apple-silicon/mt-spi.c` `LL_PACKET_LEN`. Kind: D -/
def LL_PACKET_LEN : ℕ := 0x204

/-- Source: `hw/arm/apple-silicon/mt-spi.c` `LL_PACKET_LOSSLESS_OUTPUT`. Kind: D -/
def LL_PACKET_LOSSLESS_OUTPUT : UInt8 := 0x10
/-- Source: `hw/arm/apple-silicon/mt-spi.c` `LL_PACKET_CONTROL`. Kind: D -/
def LL_PACKET_CONTROL : UInt8 := 0x40
/-- Source: `hw/arm/apple-silicon/mt-spi.c` `LL_PACKET_NO_DATA`. Kind: D -/
def LL_PACKET_NO_DATA : UInt8 := 0x80

/-- Source: `hw/arm/apple-silicon/mt-spi.c` `LL_PACKET_ERROR`. Kind: D -/
def LL_PACKET_ERROR : UInt32 := 0xB3655245
/-- Source: `hw/arm/apple-silicon/mt-spi.c` `LL_PACKET_ACK`. Kind: D -/
def LL_PACKET_ACK : UInt32 := 0xD56827AC
/-- Source: `hw/arm/apple-silicon/mt-spi.c` `LL_PACKET_NAK`. Kind: D -/
def LL_PACKET_NAK : UInt32 := 0xE4FB139
/-- Source: `hw/arm/apple-silicon/mt-spi.c` `LL_PACKET_BUSY`. Kind: D -/
def LL_PACKET_BUSY : UInt32 := 0xF8E5179C

/-- Source: `hw/arm/apple-silicon/mt-spi.c` `HID_CONTROL_PACKET_SET_OUTPUT_REPORT`. Kind: D -/
def HID_CONTROL_PACKET_SET_OUTPUT_REPORT : UInt8 := 0x51
/-- Source: `hw/arm/apple-silicon/mt-spi.c` `HID_CONTROL_PACKET_GET_FEATURE_REPORT`. Kind: D -/
def HID_CONTROL_PACKET_GET_FEATURE_REPORT : UInt8 := 0x32
/-- Source: `hw/arm/apple-silicon/mt-spi.c` `HID_CONTROL_PACKET_SET_FEATURE_REPORT`. Kind: D -/
def HID_CONTROL_PACKET_SET_FEATURE_REPORT : UInt8 := 0x52
/-- Source: `hw/arm/apple-silicon/mt-spi.c` `HID_TRANSFER_PACKET_OUTPUT`. Kind: D -/
def HID_TRANSFER_PACKET_OUTPUT : UInt8 := 0x20
/-- Source: `hw/arm/apple-silicon/mt-spi.c` `HID_PACKET_STATUS_SUCCESS`. Kind: D -/
def HID_PACKET_STATUS_SUCCESS : UInt8 := 0

/-- Source: `hw/arm/apple-silicon/mt-spi.c` `HID_REPORT_BINARY_PATH_OR_IMAGE`. Kind: D -/
def HID_REPORT_BINARY_PATH_OR_IMAGE : UInt8 := 0x44
/-- Source: `hw/arm/apple-silicon/mt-spi.c` `HID_REPORT_SENSOR_REGION_PARAM`. Kind: D -/
def HID_REPORT_SENSOR_REGION_PARAM : UInt8 := 0xA1
/-- Source: `hw/arm/apple-silicon/mt-spi.c` `HID_REPORT_SENSOR_REGION_DESC`. Kind: D -/
def HID_REPORT_SENSOR_REGION_DESC : UInt8 := 0xD0
/-- Source: `hw/arm/apple-silicon/mt-spi.c` `HID_REPORT_FAMILY_ID`. Kind: D -/
def HID_REPORT_FAMILY_ID : UInt8 := 0xD1
/-- Source: `hw/arm/apple-silicon/mt-spi.c` `HID_REPORT_BASIC_DEVICE_INFO`. Kind: D -/
def HID_REPORT_BASIC_DEVICE_INFO : UInt8 := 0xD3
/-- Source: `hw/arm/apple-silicon/mt-spi.c` `HID_REPORT_SENSOR_SURFACE_DESC`. Kind: D -/
def HID_REPORT_SENSOR_SURFACE_DESC : UInt8 := 0xD9

/-- Source: `hw/arm/apple-silicon/mt-spi.c` `MT_FAMILY_ID`. Kind: D -/
def MT_FAMILY_ID : UInt8 := 0xC3
/-- Source: `hw/arm/apple-silicon/mt-spi.c` `MT_LITTLE_ENDIAN`. Kind: D -/
def MT_LITTLE_ENDIAN : UInt8 := 1
/-- Source: `hw/arm/apple-silicon/mt-spi.c` `MT_ROWS`. Kind: D -/
def MT_ROWS : UInt8 := 31
/-- Source: `hw/arm/apple-silicon/mt-spi.c` `MT_COLUMNS`. Kind: D -/
def MT_COLUMNS : UInt8 := 15
/-- `bswap16(0x292)`.
Source: `hw/arm/apple-silicon/mt-spi.c` `MT_BCD_VER`
Kind: D -/
def MT_BCD_VER : UInt16 := 0x9202
/-- Source: `hw/arm/apple-silicon/mt-spi.c` `MT_SENSOR_SURFACE_WIDTH`. Kind: D -/
def MT_SENSOR_SURFACE_WIDTH : Int32 := 6458
/-- Source: `hw/arm/apple-silicon/mt-spi.c` `MT_SENSOR_SURFACE_HEIGHT`. Kind: D -/
def MT_SENSOR_SURFACE_HEIGHT : Int32 := 13977

/-- Source: `hw/arm/apple-silicon/mt-spi.c` `PATH_STAGE_MAKE_TOUCH`. Kind: D -/
def PATH_STAGE_MAKE_TOUCH : UInt8 := 3
/-- Source: `hw/arm/apple-silicon/mt-spi.c` `PATH_STAGE_TOUCHING`. Kind: D -/
def PATH_STAGE_TOUCHING : UInt8 := 4
/-- Source: `hw/arm/apple-silicon/mt-spi.c` `PATH_STAGE_BREAK_TOUCH`. Kind: D -/
def PATH_STAGE_BREAK_TOUCH : UInt8 := 5
/-- Source: `hw/arm/apple-silicon/mt-spi.c` `PATH_STAGE_OUT_OF_RANGE`. Kind: D -/
def PATH_STAGE_OUT_OF_RANGE : UInt8 := 7

/-- Source: `include/ui/console.h` `MOUSE_EVENT_LBUTTON`. Kind: D -/
def MOUSE_EVENT_LBUTTON : Int32 := 0x01
/-- Source: `include/ui/input.h` `INPUT_EVENT_ABS_MIN`. Kind: D -/
def INPUT_EVENT_ABS_MIN : Int32 := 0x0000
/-- Source: `include/ui/input.h` `INPUT_EVENT_ABS_MAX`. Kind: D -/
def INPUT_EVENT_ABS_MAX : Int32 := 0x7FFF
/-- Source: `include/qemu/timer.h` `SCALE_MS`. Kind: D -/
def SCALE_MS : ℕ := 1000000

/-! ## Buffers -/

/-- `AppleMTSPIBuffer`: the `len` bytes written so far, the capacity and the read position.
The bytes of `data` past `len` are never read, so they are not kept.
Source: `hw/arm/apple-silicon/mt-spi.c` `AppleMTSPIBuffer`
Kind: D -/
structure AppleMTSPIBuffer where
  data : List UInt8
  capacity : ℕ
  readPos : ℕ
  deriving DecidableEq, Repr

/-- A queued link-layer packet.
Source: `hw/arm/apple-silicon/mt-spi.c` `AppleMTSPILLPacket`
Kind: D -/
structure AppleMTSPILLPacket where
  buf : AppleMTSPIBuffer
  type : UInt8
  deriving DecidableEq, Repr

/-- `apple_mt_spi_buf_free`: the buffer zeroed.
Source: `hw/arm/apple-silicon/mt-spi.c` `apple_mt_spi_buf_free`
Kind: D -/
def appleMtSpiBufFree : AppleMTSPIBuffer := ⟨[], 0, 0⟩

/-- Source: `hw/arm/apple-silicon/mt-spi.c` `apple_mt_spi_buf_ensure_capacity`. Kind: D -/
def appleMtSpiBufEnsureCapacity (buf : AppleMTSPIBuffer) (bytes : ℕ) : AppleMTSPIBuffer :=
  if buf.data.length + bytes > buf.capacity then { buf with capacity := buf.data.length + bytes }
  else buf

/-- `apple_mt_spi_buf_set_capacity`: `none` where the assertion that the capacity does not
shrink fails.
Source: `hw/arm/apple-silicon/mt-spi.c` `apple_mt_spi_buf_set_capacity`
Kind: D -/
def appleMtSpiBufSetCapacity (buf : AppleMTSPIBuffer) (capacity : ℕ) : Option AppleMTSPIBuffer :=
  if capacity ≥ buf.capacity then some { buf with capacity := capacity } else none

/-- `apple_mt_spi_buf_set_len`: pad with `val` up to `len`; `none` where the length would shrink.
Source: `hw/arm/apple-silicon/mt-spi.c` `apple_mt_spi_buf_set_len`
Kind: D -/
def appleMtSpiBufSetLen (buf : AppleMTSPIBuffer) (val : UInt8) (len : ℕ) : Option AppleMTSPIBuffer :=
  if len ≥ buf.data.length then
    let grown := appleMtSpiBufEnsureCapacity buf (len - buf.data.length)
    some { grown with data := buf.data ++ List.replicate (len - buf.data.length) val }
  else none

/-- `apple_mt_spi_buf_get_pos`: the offset of the last byte; `none` on an empty buffer.
Source: `hw/arm/apple-silicon/mt-spi.c` `apple_mt_spi_buf_get_pos`
Kind: D -/
def appleMtSpiBufGetPos (buf : AppleMTSPIBuffer) : Option ℕ :=
  if buf.data.length ≠ 0 then some (buf.data.length - 1) else none

/-- Source: `hw/arm/apple-silicon/mt-spi.c` `apple_mt_spi_buf_is_empty`. Kind: D -/
def appleMtSpiBufIsEmpty (buf : AppleMTSPIBuffer) : Bool := buf.data.length == 0

/-- Source: `hw/arm/apple-silicon/mt-spi.c` `apple_mt_spi_buf_is_full`. Kind: D -/
def appleMtSpiBufIsFull (buf : AppleMTSPIBuffer) : Bool := buf.data.length == buf.capacity

/-- Source: `hw/arm/apple-silicon/mt-spi.c` `apple_mt_spi_buf_pos_at_start`. Kind: D -/
def appleMtSpiBufPosAtStart (buf : AppleMTSPIBuffer) : Option Bool :=
  (appleMtSpiBufGetPos buf).map (· == 0)

/-- Source: `hw/arm/apple-silicon/mt-spi.c` `apple_mt_spi_buf_read_pos_at_end`. Kind: D -/
def appleMtSpiBufReadPosAtEnd (buf : AppleMTSPIBuffer) : Bool := buf.readPos + 1 == buf.data.length

/-- The common body of the `push` helpers: make room for `bs`, then append them.
Source: `hw/arm/apple-silicon/mt-spi.c` `apple_mt_spi_buf_push_byte` (and `_word`, `_dword`)
Kind: D -/
def appleMtSpiBufPushBytes (buf : AppleMTSPIBuffer) (bs : List UInt8) : AppleMTSPIBuffer :=
  let grown := appleMtSpiBufEnsureCapacity buf bs.length
  { grown with data := buf.data ++ bs }

/-- Source: `hw/arm/apple-silicon/mt-spi.c` `apple_mt_spi_buf_push_byte`. Kind: D -/
def appleMtSpiBufPushByte (buf : AppleMTSPIBuffer) (val : UInt8) : AppleMTSPIBuffer :=
  appleMtSpiBufPushBytes buf [val]

/-- `stw_le_p` at the end of the buffer.
Source: `hw/arm/apple-silicon/mt-spi.c` `apple_mt_spi_buf_push_word`
Kind: D -/
def appleMtSpiBufPushWord (buf : AppleMTSPIBuffer) (val : UInt16) : AppleMTSPIBuffer :=
  appleMtSpiBufPushBytes buf (leBytes val.toNat 2)

/-- `stl_le_p` at the end of the buffer.
Source: `hw/arm/apple-silicon/mt-spi.c` `apple_mt_spi_buf_push_dword`
Kind: D -/
def appleMtSpiBufPushDword (buf : AppleMTSPIBuffer) (val : UInt32) : AppleMTSPIBuffer :=
  appleMtSpiBufPushBytes buf (leBytes val.toNat 4)

/-- Source: `hw/arm/apple-silicon/mt-spi.c` `apple_mt_spi_buf_push_crc16`. Kind: D -/
def appleMtSpiBufPushCrc16 (buf : AppleMTSPIBuffer) : Option AppleMTSPIBuffer :=
  if appleMtSpiBufIsEmpty buf then none else some (appleMtSpiBufPushWord buf (crc16 0 buf.data))

/-- `apple_mt_spi_buf_append`: `buf` with the bytes of `other` after its own, and `other` freed.
Source: `hw/arm/apple-silicon/mt-spi.c` `apple_mt_spi_buf_append`
Kind: D -/
def appleMtSpiBufAppend (buf other : AppleMTSPIBuffer) : AppleMTSPIBuffer × AppleMTSPIBuffer :=
  (if !appleMtSpiBufIsEmpty other then appleMtSpiBufPushBytes buf other.data else buf,
    appleMtSpiBufFree)

/-- `apple_mt_spi_buf_pop`: `0` from an empty buffer; otherwise the byte at `read_pos`, and the
buffer freed once that was its last byte. `none` where `read_pos` is not below `len`.
Source: `hw/arm/apple-silicon/mt-spi.c` `apple_mt_spi_buf_pop`
Kind: D -/
def appleMtSpiBufPop (buf : AppleMTSPIBuffer) : Option (UInt8 × AppleMTSPIBuffer) :=
  if appleMtSpiBufIsEmpty buf then some (0, buf)
  else if h : buf.readPos < buf.data.length then
    if appleMtSpiBufReadPosAtEnd buf || appleMtSpiBufIsEmpty buf then
      some (buf.data[buf.readPos], appleMtSpiBufFree)
    else some (buf.data[buf.readPos], { buf with readPos := buf.readPos + 1 })
  else none

/-- Source: `hw/arm/apple-silicon/mt-spi.c` `apple_mt_spi_buf_read_byte`. Kind: D -/
def appleMtSpiBufReadByte (buf : AppleMTSPIBuffer) (off : ℕ) : Option UInt8 :=
  if h : off < buf.data.length then some buf.data[off] else none

/-- `lduw_be_p` at `off`, with the code's bound `off + 2 < len`.
Source: `hw/arm/apple-silicon/mt-spi.c` `apple_mt_spi_buf_read_word`
Kind: D -/
def appleMtSpiBufReadWord (buf : AppleMTSPIBuffer) (off : ℕ) : Option UInt16 :=
  if off + 2 < buf.data.length then some (UInt16.ofNat (beValue ((buf.data.drop off).take 2)))
  else none

/-! ## The device -/

/-- The device's fields the byte and input paths use; `irq` is the level last driven
(`true` raised, which the controller reads as inactive).
Source: `hw/arm/apple-silicon/mt-spi.c` `AppleMTSPIState`
Kind: D -/
structure AppleMTSPIState where
  irq : Bool
  tx : AppleMTSPIBuffer
  rx : AppleMTSPIBuffer
  pendingHbpp : AppleMTSPIBuffer
  pendingFw : List AppleMTSPILLPacket
  frame : UInt8
  x : Int32
  y : Int32
  prevX : Int32
  prevY : Int32
  prevTs : UInt32
  btnState : Int32
  prevBtnState : Int32
  deriving DecidableEq, Repr

/-- `apple_mt_spi_reset_unlocked`: interrupt raised, input state cleared, every buffer freed and
the firmware queue emptied.
Source: `hw/arm/apple-silicon/mt-spi.c` `apple_mt_spi_reset_unlocked`
Kind: D -/
def appleMtSpiResetUnlocked (s : AppleMTSPIState) : AppleMTSPIState :=
  { s with
    irq := true
    btnState := 0
    prevBtnState := 0
    prevX := 0
    prevY := 0
    x := 0
    y := 0
    prevTs := 0
    frame := 0
    tx := appleMtSpiBufFree
    rx := appleMtSpiBufFree
    pendingHbpp := appleMtSpiBufFree
    pendingFw := [] }

/-- Source: `hw/arm/apple-silicon/mt-spi.c` `apple_mt_spi_push_pending_hbpp_word`. Kind: D -/
def appleMtSpiPushPendingHbppWord (s : AppleMTSPIState) (val : UInt16) : AppleMTSPIState :=
  { s with pendingHbpp := appleMtSpiBufPushWord s.pendingHbpp val, irq := false }

/-- Source: `hw/arm/apple-silicon/mt-spi.c` `apple_mt_spi_push_pending_hbpp_dword`. Kind: D -/
def appleMtSpiPushPendingHbppDword (s : AppleMTSPIState) (val : UInt32) : AppleMTSPIState :=
  { s with pendingHbpp := appleMtSpiBufPushDword s.pendingHbpp val, irq := false }

/-- The length of an HBPP command's header, by its packet type.
Source: `hw/arm/apple-silicon/mt-spi.c` `apple_mt_spi_hbpp_packet_hdr_len`
Kind: D -/
def appleMtSpiHbppPacketHdrLen (val : UInt8) : UInt16 :=
  if val = HBPP_PACKET_RESET then 0x4
  else if val = HBPP_PACKET_NOP then 0x2
  else if val = HBPP_PACKET_INT_ACK then 0x2
  else if val = HBPP_PACKET_MEM_READ then 0x8
  else if val = HBPP_PACKET_MEM_RMW then 0x10
  else if val = HBPP_PACKET_REQ_CAL then 0x2
  else if val = HBPP_PACKET_DATA then 0xA
  else 0x2

/-- Once a DATA header is in: the capacity it asks for, computed in `uint16_t` (the length word
times four, plus the header and a CRC word). The same capacity again means the payload is in;
otherwise `rx` is grown to it.
Source: `hw/arm/apple-silicon/mt-spi.c` `apple_mt_spi_handle_hbpp_data`
Kind: D -/
def appleMtSpiHandleHbppData (s : AppleMTSPIState) : Option AppleMTSPIState := do
  if !appleMtSpiBufIsFull s.rx then return s
  let word ← appleMtSpiBufReadWord s.rx 2
  let payloadLen : UInt16 := word * 4
  let newRxCapacity : UInt16 := appleMtSpiHbppPacketHdrLen HBPP_PACKET_DATA + payloadLen + 4
  if s.rx.capacity = newRxCapacity.toNat then
    return appleMtSpiPushPendingHbppWord s HBPP_PACKET_ACK_DATA
  let rx ← appleMtSpiBufSetCapacity s.rx newRxCapacity.toNat
  return { s with rx := rx }

/-- Source: `hw/arm/apple-silicon/mt-spi.c` `apple_mt_spi_handle_hbpp_mem_rmw`. Kind: D -/
def appleMtSpiHandleHbppMemRmw (s : AppleMTSPIState) : AppleMTSPIState :=
  if !appleMtSpiBufIsFull s.rx then s else appleMtSpiPushPendingHbppWord s HBPP_PACKET_ACK_WR_REQ

/-- An HBPP command byte: on its first byte the capacity of `rx` becomes the header length of its
packet type, then the type's handler runs.
Source: `hw/arm/apple-silicon/mt-spi.c` `apple_mt_spi_handle_hbpp`
Kind: D -/
def appleMtSpiHandleHbpp (s : AppleMTSPIState) : Option AppleMTSPIState := do
  let packetType ← appleMtSpiBufReadByte s.rx 0
  let s ← do
    if ← appleMtSpiBufPosAtStart s.rx then
      let rx ← appleMtSpiBufSetCapacity s.rx (appleMtSpiHbppPacketHdrLen packetType).toNat
      pure { s with rx := rx }
    else pure s
  if packetType = HBPP_PACKET_RESET then
    if appleMtSpiBufIsFull s.rx then
      return appleMtSpiPushPendingHbppWord (appleMtSpiResetUnlocked s) HBPP_PACKET_REQ_BOOT
    return s
  else if packetType = HBPP_PACKET_NOP then
    if (← appleMtSpiBufPosAtStart s.rx) && appleMtSpiBufIsEmpty s.tx then
      return { s with tx := appleMtSpiBufPushWord s.tx HBPP_PACKET_ACK_NOP }
    return s
  else if packetType = HBPP_PACKET_INT_ACK then
    if ← appleMtSpiBufPosAtStart s.rx then
      let (tx, pendingHbpp) := appleMtSpiBufAppend s.tx s.pendingHbpp
      return { s with tx := tx, pendingHbpp := pendingHbpp }
    return s
  else if packetType = HBPP_PACKET_MEM_READ then
    if ← appleMtSpiBufPosAtStart s.rx then
      -- the reply word, a zero value and the zero CRC of that value
      let s := appleMtSpiPushPendingHbppWord s HBPP_PACKET_ACK_RD_REQ
      let s := appleMtSpiPushPendingHbppDword s 0x00000000
      return appleMtSpiPushPendingHbppWord s 0x0000
    return s
  else if packetType = HBPP_PACKET_MEM_RMW then
    return appleMtSpiHandleHbppMemRmw s
  else if packetType = HBPP_PACKET_REQ_CAL then
    if ← appleMtSpiBufPosAtStart s.rx then
      return appleMtSpiPushPendingHbppWord s HBPP_PACKET_CAL_DONE
    return s
  else if packetType = HBPP_PACKET_DATA then
    appleMtSpiHandleHbppData s
  else return s

/-! ## Link-layer frames -/

/-- Source: `hw/arm/apple-silicon/mt-spi.c` `apple_mt_spi_push_preamble`. Kind: D -/
def appleMtSpiPushPreamble (buf : AppleMTSPIBuffer) : AppleMTSPIBuffer :=
  appleMtSpiBufPushDword buf LL_PACKET_PREAMBLE

/-- Source: `hw/arm/apple-silicon/mt-spi.c` `apple_mt_spi_push_ll_hdr`. Kind: D -/
def appleMtSpiPushLlHdr (buf : AppleMTSPIBuffer) (type interface : UInt8)
    (payloadOff payloadRemaining payloadLength : UInt16) : AppleMTSPIBuffer :=
  let buf := appleMtSpiBufPushByte buf type
  let buf := appleMtSpiBufPushByte buf interface
  let buf := appleMtSpiBufPushWord buf payloadOff
  let buf := appleMtSpiBufPushWord buf payloadRemaining
  appleMtSpiBufPushWord buf payloadLength

/-- Zero-pad to the frame length less the preamble and the CRC word.
Source: `hw/arm/apple-silicon/mt-spi.c` `apple_mt_spi_pad_ll_packet`
Kind: D -/
def appleMtSpiPadLlPacket (buf : AppleMTSPIBuffer) : Option AppleMTSPIBuffer :=
  appleMtSpiBufSetLen buf 0 (LL_PACKET_LEN - 4 - 2)

/-- Source: `hw/arm/apple-silicon/mt-spi.c` `apple_mt_spi_push_no_data`. Kind: D -/
def appleMtSpiPushNoData (buf : AppleMTSPIBuffer) : Option AppleMTSPIBuffer := do
  let buf ← appleMtSpiPadLlPacket (appleMtSpiPushLlHdr buf LL_PACKET_NO_DATA 0 0 0 0)
  appleMtSpiBufPushCrc16 buf

/-- A byte of a received frame's payload, which starts after the preamble and the eight-byte
link-layer header.
Source: `hw/arm/apple-silicon/mt-spi.c` `apple_mt_spi_ll_read_payload_byte`
Kind: D -/
def appleMtSpiLlReadPayloadByte (buf : AppleMTSPIBuffer) (off : ℕ) : Option UInt8 :=
  if appleMtSpiBufIsEmpty buf then none
  else if h : 4 + 8 + off + 1 ≤ buf.data.length then some buf.data[4 + 8 + off]
  else none

/-- Source: `hw/arm/apple-silicon/mt-spi.c` `apple_mt_spi_push_hid_hdr`. Kind: D -/
def appleMtSpiPushHidHdr (buf : AppleMTSPIBuffer) (type reportId packetStatus frameNumber : UInt8)
    (lengthRequested payloadLength : UInt16) : AppleMTSPIBuffer :=
  let buf := [type, reportId, packetStatus, frameNumber].foldl appleMtSpiBufPushByte buf
  let buf := appleMtSpiBufPushWord buf lengthRequested
  appleMtSpiBufPushWord buf payloadLength

/-- Source: `hw/arm/apple-silicon/mt-spi.c` `apple_mt_spi_push_report_hdr`. Kind: D -/
def appleMtSpiPushReportHdr (buf : AppleMTSPIBuffer) (type reportId packetStatus frameNumber : UInt8)
    (payloadLength : UInt16) : AppleMTSPIBuffer :=
  let buf := appleMtSpiPushHidHdr buf type reportId packetStatus frameNumber 0 (payloadLength + 1)
  appleMtSpiBufPushByte buf reportId

/-- Source: `hw/arm/apple-silicon/mt-spi.c` `apple_mt_spi_push_report_byte`. Kind: D -/
def appleMtSpiPushReportByte (buf : AppleMTSPIBuffer) (type reportId packetStatus frameNumber val : UInt8) :
    AppleMTSPIBuffer :=
  appleMtSpiBufPushByte (appleMtSpiPushReportHdr buf type reportId packetStatus frameNumber 2) val

/-- The reply a GET_FEATURE_REPORT asks for, by report id, before its CRC word.
Source: `hw/arm/apple-silicon/mt-spi.c` `apple_mt_spi_handle_get_feature`
Kind: D -/
def appleMtSpiFeatureReport (reportId frameNumber : UInt8) : AppleMTSPIBuffer :=
  let hdr (len : UInt16) := appleMtSpiPushReportHdr appleMtSpiBufFree
    HID_CONTROL_PACKET_SET_OUTPUT_REPORT reportId HID_PACKET_STATUS_SUCCESS frameNumber len
  if reportId = HID_REPORT_FAMILY_ID then
    appleMtSpiPushReportByte appleMtSpiBufFree HID_CONTROL_PACKET_SET_OUTPUT_REPORT reportId
      HID_PACKET_STATUS_SUCCESS frameNumber MT_FAMILY_ID
  else if reportId = HID_REPORT_BASIC_DEVICE_INFO then
    let buf := [MT_LITTLE_ENDIAN, MT_ROWS, MT_COLUMNS].foldl appleMtSpiBufPushByte (hdr 5)
    appleMtSpiBufPushWord buf MT_BCD_VER
  else if reportId = HID_REPORT_SENSOR_SURFACE_DESC then
    let buf := appleMtSpiBufPushDword (hdr 16) MT_SENSOR_SURFACE_WIDTH.toUInt32
    let buf := appleMtSpiBufPushDword buf MT_SENSOR_SURFACE_HEIGHT.toUInt32
    [0, 0, MT_SENSOR_SURFACE_WIDTH.toUInt32.toUInt16, MT_SENSOR_SURFACE_HEIGHT.toUInt32.toUInt16].foldl
      appleMtSpiBufPushWord buf
  else if reportId = HID_REPORT_SENSOR_REGION_PARAM then
    [0x0, 0x7, 0x200].foldl appleMtSpiBufPushWord (hdr 6)
  else if reportId = HID_REPORT_SENSOR_REGION_DESC then
    -- the region count, then three regions of seven bytes, the last one as the code has it
    [3, 1, 0, 30, 1, 0, 14, 0, 8, 0, 30, 1, 14, 1, 0, 11, 30, 1, 1, 0, 15, 0].foldl
      appleMtSpiBufPushByte (hdr 22)
  else
    appleMtSpiPushReportByte appleMtSpiBufFree HID_CONTROL_PACKET_SET_OUTPUT_REPORT reportId
      HID_PACKET_STATUS_SUCCESS frameNumber 0

/-- Source: `hw/arm/apple-silicon/mt-spi.c` `apple_mt_spi_handle_get_feature`. Kind: D -/
def appleMtSpiHandleGetFeature (s : AppleMTSPIState) : Option AppleMTSPIState := do
  let reportId ← appleMtSpiLlReadPayloadByte s.rx 1
  let frameNumber ← appleMtSpiLlReadPayloadByte s.rx 3
  let buf ← appleMtSpiBufPushCrc16 (appleMtSpiFeatureReport reportId frameNumber)
  return { s with pendingFw := s.pendingFw ++ [⟨buf, LL_PACKET_CONTROL⟩] }

/-- Source: `hw/arm/apple-silicon/mt-spi.c` `apple_mt_spi_handle_set_feature`. Kind: D -/
def appleMtSpiHandleSetFeature (s : AppleMTSPIState) : Option AppleMTSPIState := do
  let reportId ← appleMtSpiLlReadPayloadByte s.rx 1
  let frameNumber ← appleMtSpiLlReadPayloadByte s.rx 3
  let buf ← appleMtSpiBufPushCrc16 (appleMtSpiPushHidHdr appleMtSpiBufFree
    HID_CONTROL_PACKET_SET_OUTPUT_REPORT reportId HID_PACKET_STATUS_SUCCESS frameNumber 0 0)
  return { s with pendingFw := s.pendingFw ++ [⟨buf, LL_PACKET_CONTROL⟩] }

/-- Source: `hw/arm/apple-silicon/mt-spi.c` `apple_mt_spi_handle_control`. Kind: D -/
def appleMtSpiHandleControl (s : AppleMTSPIState) : Option AppleMTSPIState := do
  let type ← appleMtSpiLlReadPayloadByte s.rx 0
  if type = HID_CONTROL_PACKET_GET_FEATURE_REPORT then appleMtSpiHandleGetFeature s
  else if type = HID_CONTROL_PACKET_SET_FEATURE_REPORT then appleMtSpiHandleSetFeature s
  else return s

/-- The frame sent back while a link-layer frame comes in: the first queued packet with its
header, padding and CRC, or a NO_DATA frame when none is queued.
Source: `hw/arm/apple-silicon/mt-spi.c` `apple_mt_spi_handle_fw_packet`
Kind: D -/
def appleMtSpiFwReply : List AppleMTSPILLPacket → Option (AppleMTSPIBuffer × List AppleMTSPILLPacket)
  | [] => do
    let buf ← appleMtSpiPushNoData appleMtSpiBufFree
    return (buf, [])
  | packet :: rest => do
    let buf := appleMtSpiPushLlHdr appleMtSpiBufFree packet.type 0 0 0
      (UInt16.ofNat packet.buf.data.length)
    let buf := (appleMtSpiBufAppend buf packet.buf).1
    let buf ← appleMtSpiPadLlPacket buf
    let buf ← appleMtSpiBufPushCrc16 buf
    return (buf, rest)

/-- A link-layer frame byte past the preamble: at the packet type byte the frame length becomes
`LL_PACKET_LEN` and the reply frame is queued on `tx`; a full frame is dispatched on its type.
Source: `hw/arm/apple-silicon/mt-spi.c` `apple_mt_spi_handle_fw_packet`
Kind: D -/
def appleMtSpiHandleFwPacket (s : AppleMTSPIState) : Option AppleMTSPIState := do
  let s ← do
    if (← appleMtSpiBufGetPos s.rx) = 4 then
      let rx ← appleMtSpiBufSetCapacity s.rx LL_PACKET_LEN
      let (buf, pendingFw) ← appleMtSpiFwReply s.pendingFw
      pure { s with rx := rx, tx := (appleMtSpiBufAppend s.tx buf).1, pendingFw := pendingFw }
    else pure s
  if !appleMtSpiBufIsFull s.rx then return s
  let packetType ← appleMtSpiBufReadByte s.rx 4
  if packetType = LL_PACKET_NO_DATA then return s
  else if packetType = LL_PACKET_CONTROL then appleMtSpiHandleControl s
  else return s

/-- A link-layer frame byte: on the first the frame length becomes two words and the preamble
goes out; from the type byte on, an acknowledgement type is answered with `LL_PACKET_ACK` and any
other goes to `apple_mt_spi_handle_fw_packet`.
Source: `hw/arm/apple-silicon/mt-spi.c` `apple_mt_spi_handle_fw`
Kind: D -/
def appleMtSpiHandleFw (s : AppleMTSPIState) : Option AppleMTSPIState := do
  let s ← do
    if ← appleMtSpiBufPosAtStart s.rx then
      let rx ← appleMtSpiBufSetCapacity s.rx (4 * 2)
      pure { s with rx := rx, tx := appleMtSpiPushPreamble s.tx }
    else pure s
  let pos ← appleMtSpiBufGetPos s.rx
  if pos < 4 then return s
  let packetType ← appleMtSpiBufReadByte s.rx 4
  if packetType = (LL_PACKET_ERROR &&& 0xFF).toUInt8 ∨ packetType = (LL_PACKET_ACK &&& 0xFF).toUInt8 ∨
      packetType = (LL_PACKET_NAK &&& 0xFF).toUInt8 ∨ packetType = (LL_PACKET_BUSY &&& 0xFF).toUInt8 then
    if pos = 4 then return { s with tx := appleMtSpiBufPushDword s.tx LL_PACKET_ACK }
    return s
  else appleMtSpiHandleFwPacket s

/-- One byte clocked in: it joins `rx`, the frame's protocol handles it, a full `rx` is freed,
the next byte of `tx` is the answer, and the interrupt is raised (inactive) exactly when both
reply queues are empty.
Source: `hw/arm/apple-silicon/mt-spi.c` `apple_mt_spi_transfer`
Kind: D -/
def appleMtSpiTransfer (s : AppleMTSPIState) (val : UInt32) : Option (UInt32 × AppleMTSPIState) := do
  let s := { s with rx := appleMtSpiBufPushByte s.rx val.toUInt8 }
  let s ← do
    if (← appleMtSpiBufReadByte s.rx 0) = (LL_PACKET_PREAMBLE &&& 0xFF).toUInt8 then
      appleMtSpiHandleFw s
    else appleMtSpiHandleHbpp s
  let s := if appleMtSpiBufIsFull s.rx then { s with rx := appleMtSpiBufFree } else s
  let (ret, tx) ← appleMtSpiBufPop s.tx
  return (ret.toUInt32,
    { s with tx := tx, irq := appleMtSpiBufIsEmpty s.pendingHbpp && s.pendingFw.isEmpty })

/-! ## Touch input -/

/-- The path report queued for a touch at `(x, y)`: 58 bytes and a CRC word. The velocities
divide the `int` displacement, converted to `unsigned`, by `ts + 1 - prev_ts`; `none` where that
divisor is `0` and the division traps. `now` is `qemu_clock_get_ns(QEMU_CLOCK_VIRTUAL)`.
Source: `hw/arm/apple-silicon/mt-spi.c` `apple_mt_spi_send_path_update`
Kind: D -/
def appleMtSpiSendPathUpdate (s : AppleMTSPIState) (pathStage : UInt8) (now : ℕ) :
    Option AppleMTSPIState := do
  let ts : UInt32 := UInt32.ofNat (now / SCALE_MS)
  let div := ts + 1 - s.prevTs
  if div = 0 then none
  let buf := appleMtSpiPushReportHdr appleMtSpiBufFree HID_TRANSFER_PACKET_OUTPUT
    HID_REPORT_BINARY_PATH_OR_IMAGE HID_PACKET_STATUS_SUCCESS s.frame (27 + 22)
  let buf := [s.frame, 28, 0].foldl appleMtSpiBufPushByte buf
  let buf := appleMtSpiBufPushDword buf ts
  let buf := [0, 0, 0, 0].foldl appleMtSpiBufPushByte buf
  -- then the image length, the path count and length, and reserved fields
  let buf := [0, 0].foldl appleMtSpiBufPushWord buf
  let buf := [1, 22].foldl appleMtSpiBufPushByte buf
  let buf := [0, 0, 0].foldl appleMtSpiBufPushWord buf
  let buf := [0, 0, 0, 0].foldl appleMtSpiBufPushByte buf
  -- path 0: id, event, finger id, hand id, position, velocities, radii, angle, density
  let buf := [1, pathStage, 1, 1].foldl appleMtSpiBufPushByte buf
  let buf := [s.x.toUInt32.toUInt16, s.y.toUInt32.toUInt16,
    ((s.x - s.prevX).toUInt32 / div * 1000).toUInt16, ((s.y - s.prevY).toUInt32 / div * 1000).toUInt16,
    660, 580, 19317, 100, 150].foldl appleMtSpiBufPushWord buf
  let buf ← appleMtSpiBufPushCrc16 buf
  return { s with
    pendingFw := s.pendingFw ++ [⟨buf, LL_PACKET_LOSSLESS_OUTPUT⟩]
    irq := false
    frame := if s.frame < 0xFF then s.frame + 1 else 0
    prevTs := ts }

/-- Source: `hw/arm/apple-silicon/mt-spi.c` `touch_timer_tick`. Kind: D -/
def touchTimerTick (s : AppleMTSPIState) (now : ℕ) : Option AppleMTSPIState :=
  if s.prevX ≠ s.x ∨ s.prevY ≠ s.y then appleMtSpiSendPathUpdate s PATH_STAGE_TOUCHING now
  else some s

/-- Source: `hw/arm/apple-silicon/mt-spi.c` `touch_end_timer_tick`. Kind: D -/
def touchEndTimerTick (s : AppleMTSPIState) (now : ℕ) : Option AppleMTSPIState := do
  let s ← appleMtSpiSendPathUpdate s PATH_STAGE_OUT_OF_RANGE now
  return { s with prevTs := 0, prevX := 0, prevY := 0 }

/-- A mouse event: the absolute position scaled onto the sensor (the `y` axis flipped and moved
by the calibration offset), and a path report when the left button goes down or up.
Source: `hw/arm/apple-silicon/mt-spi.c` `apple_mt_spi_mouse_event`
Kind: D -/
def appleMtSpiMouseEvent (s : AppleMTSPIState) (dx dy : Int32) (buttonsState : Int32) (now : ℕ) :
    Option AppleMTSPIState :=
  let s := { s with
    prevX := s.x
    prevY := s.y
    x := qemuInputScaleAxis dx INPUT_EVENT_ABS_MIN INPUT_EVENT_ABS_MAX 0 MT_SENSOR_SURFACE_WIDTH
    y := qemuInputScaleAxis (INPUT_EVENT_ABS_MAX - dy) INPUT_EVENT_ABS_MIN INPUT_EVENT_ABS_MAX 0
        MT_SENSOR_SURFACE_HEIGHT - qemuInputScaleAxis 16 0 1792 0 MT_SENSOR_SURFACE_HEIGHT
    prevBtnState := s.btnState
    btnState := buttonsState }
  if s.btnState &&& MOUSE_EVENT_LBUTTON ≠ 0 then
    if s.prevBtnState &&& MOUSE_EVENT_LBUTTON = 0 then
      appleMtSpiSendPathUpdate s PATH_STAGE_MAKE_TOUCH now
    else some s
  else if s.prevBtnState &&& MOUSE_EVENT_LBUTTON ≠ 0 then
    appleMtSpiSendPathUpdate s PATH_STAGE_BREAK_TOUCH now
  else some s

/-- What can happen to the device: a byte from the host, a mouse event, a tick of either touch
timer, each with the virtual clock's reading.
Source: `hw/arm/apple-silicon/mt-spi.c`
Kind: D -/
inductive MtSpiEvent where
  | transfer (val : UInt32)
  | mouse (dx dy buttonsState : Int32) (now : ℕ)
  | touchTick (now : ℕ)
  | touchEndTick (now : ℕ)
  deriving DecidableEq, Repr

/-- Source: none: infrastructure. Kind: D -/
def appleMtSpiStep (s : AppleMTSPIState) : MtSpiEvent → Option AppleMTSPIState
  | .transfer val => (appleMtSpiTransfer s val).map Prod.snd
  | .mouse dx dy buttonsState now => appleMtSpiMouseEvent s dx dy buttonsState now
  | .touchTick now => touchTimerTick s now
  | .touchEndTick now => touchEndTimerTick s now

/-- A run of events; `none` as soon as one step fails. -/
def appleMtSpiRun (s : AppleMTSPIState) : List MtSpiEvent → Option AppleMTSPIState
  | [] => some s
  | e :: es => (appleMtSpiStep s e).bind fun s' => appleMtSpiRun s' es

/-! ## Buffer lemmas -/

section buffer

variable (buf : AppleMTSPIBuffer)

@[simp] theorem appleMtSpiBufPushBytes_data (bs : List UInt8) :
    (appleMtSpiBufPushBytes buf bs).data = buf.data ++ bs := rfl

@[simp] theorem appleMtSpiBufPushBytes_readPos (bs : List UInt8) :
    (appleMtSpiBufPushBytes buf bs).readPos = buf.readPos := by
  unfold appleMtSpiBufPushBytes appleMtSpiBufEnsureCapacity
  split <;> rfl

@[simp] theorem appleMtSpiBufPushByte_data (val : UInt8) :
    (appleMtSpiBufPushByte buf val).data = buf.data ++ [val] := rfl

/-- `read_pos` points at a byte of the buffer whenever it holds any: what `apple_mt_spi_buf_pop`
asserts. -/
def AppleMTSPIBuffer.ReadPosOk : Prop := buf.data ≠ [] → buf.readPos < buf.data.length

/-- Popping a buffer whose `read_pos` is in range succeeds and keeps it in range.
Source: `hw/arm/apple-silicon/mt-spi.c` `apple_mt_spi_buf_pop`
Kind: L -/
theorem appleMtSpiBufPop_of_readPosOk {buf : AppleMTSPIBuffer} (h : buf.ReadPosOk) :
    ∃ r buf', appleMtSpiBufPop buf = some (r, buf') ∧ buf'.ReadPosOk := by
  unfold appleMtSpiBufPop
  by_cases hempty : appleMtSpiBufIsEmpty buf = true
  · exact ⟨0, buf, by rw [if_pos hempty], h⟩
  have hne : buf.data ≠ [] := fun h' => hempty (by simp [appleMtSpiBufIsEmpty, h'])
  have hlt := h hne
  rw [if_neg hempty, dif_pos hlt]
  split
  · exact ⟨_, _, rfl, fun h' => absurd rfl h'⟩
  · rename_i hend
    have hnext : buf.readPos + 1 < buf.data.length := by
      simp only [appleMtSpiBufReadPosAtEnd, Bool.or_eq_true, beq_iff_eq, not_or] at hend
      omega
    exact ⟨_, _, rfl, fun _ => hnext⟩

end buffer

/-! ## The bytes of an HBPP DATA header -/

section hbpp

variable {s : AppleMTSPIState}

/-- The first byte of a DATA command, alone in `rx`, sets the frame length to the header's.
Source: `hw/arm/apple-silicon/mt-spi.c` `apple_mt_spi_handle_hbpp`
Kind: L -/
theorem appleMtSpiHandleHbpp_data_start (hrx : s.rx = ⟨[HBPP_PACKET_DATA], 1, 0⟩) :
    appleMtSpiHandleHbpp s = some { s with rx := ⟨[HBPP_PACKET_DATA], 0xA, 0⟩ } := by
  simp [appleMtSpiHandleHbpp, hrx, appleMtSpiBufReadByte, appleMtSpiBufPosAtStart,
    appleMtSpiBufGetPos, appleMtSpiBufSetCapacity, appleMtSpiHbppPacketHdrLen, HBPP_PACKET_RESET,
    HBPP_PACKET_NOP, HBPP_PACKET_INT_ACK, HBPP_PACKET_MEM_READ, HBPP_PACKET_MEM_RMW,
    HBPP_PACKET_REQ_CAL, HBPP_PACKET_DATA, appleMtSpiHandleHbppData, appleMtSpiBufIsFull]

/-- Past its first byte, a DATA command's bytes go to `apple_mt_spi_handle_hbpp_data` alone.
Source: `hw/arm/apple-silicon/mt-spi.c` `apple_mt_spi_handle_hbpp`
Kind: L -/
theorem appleMtSpiHandleHbpp_of_data (hbyte : appleMtSpiBufReadByte s.rx 0 = some HBPP_PACKET_DATA)
    (hstart : appleMtSpiBufPosAtStart s.rx = some false) :
    appleMtSpiHandleHbpp s = appleMtSpiHandleHbppData s := by
  simp only [appleMtSpiHandleHbpp, hbyte, hstart, Option.pure_def]
  simp [HBPP_PACKET_RESET, HBPP_PACKET_NOP, HBPP_PACKET_INT_ACK, HBPP_PACKET_MEM_READ,
    HBPP_PACKET_MEM_RMW, HBPP_PACKET_REQ_CAL, HBPP_PACKET_DATA]

/-- Source: `hw/arm/apple-silicon/mt-spi.c` `apple_mt_spi_handle_hbpp_data`. Kind: L -/
theorem appleMtSpiHandleHbppData_of_not_full (h : appleMtSpiBufIsFull s.rx = false) :
    appleMtSpiHandleHbppData s = some s := by
  simp [appleMtSpiHandleHbppData, h]

/-- Once the header is in: the capacity it asks for, in `uint16_t`, is acknowledged when it is the
current one and set otherwise, which fails when it is smaller.
Source: `hw/arm/apple-silicon/mt-spi.c` `apple_mt_spi_handle_hbpp_data`
Kind: L -/
theorem appleMtSpiHandleHbppData_of_full (h : appleMtSpiBufIsFull s.rx = true) {word : UInt16}
    (hword : appleMtSpiBufReadWord s.rx 2 = some word) :
    appleMtSpiHandleHbppData s =
      let c := (appleMtSpiHbppPacketHdrLen HBPP_PACKET_DATA + word * 4 + 4).toNat
      if s.rx.capacity = c then some (appleMtSpiPushPendingHbppWord s HBPP_PACKET_ACK_DATA)
      else if c ≥ s.rx.capacity then some { s with rx := { s.rx with capacity := c } }
      else none := by
  simp only [appleMtSpiHandleHbppData, h, hword, Bool.not_true, Bool.false_eq_true, if_false,
    Option.bind_eq_bind, Option.bind_some, Option.pure_def, appleMtSpiBufSetCapacity]
  split
  · rfl
  · split <;> rfl

theorem LL_PACKET_PREAMBLE_low : (LL_PACKET_PREAMBLE &&& 0xFF).toUInt8 = 0xEF := by decide

/-- A byte of an HBPP frame: after `rx` takes it and the handler runs, a full `rx` is freed and
`tx` gives the answer.
Source: `hw/arm/apple-silicon/mt-spi.c` `apple_mt_spi_transfer`
Kind: L -/
theorem appleMtSpiTransfer_of_hbpp {s₁ : AppleMTSPIState} {val : UInt32} {b : UInt8}
    (hfirst : appleMtSpiBufReadByte (appleMtSpiBufPushByte s.rx val.toUInt8) 0 = some b)
    (hb : b ≠ 0xEF)
    (hh : appleMtSpiHandleHbpp { s with rx := appleMtSpiBufPushByte s.rx val.toUInt8 } = some s₁)
    {r : UInt8} {tx : AppleMTSPIBuffer} (hpop : appleMtSpiBufPop s₁.tx = some (r, tx)) :
    ∃ s', appleMtSpiTransfer s val = some (r.toUInt32, s') ∧
      s'.rx = (if appleMtSpiBufIsFull s₁.rx then appleMtSpiBufFree else s₁.rx) ∧ s'.tx = tx := by
  by_cases hfull : appleMtSpiBufIsFull s₁.rx = true
  · have h : appleMtSpiTransfer s val = some (r.toUInt32, { s₁ with
        rx := appleMtSpiBufFree, tx := tx
        irq := appleMtSpiBufIsEmpty s₁.pendingHbpp && s₁.pendingFw.isEmpty }) := by
      simp only [appleMtSpiTransfer, LL_PACKET_PREAMBLE_low]
      simp [hfirst, hb, hh, hfull, hpop]
    exact ⟨_, h, by rw [if_pos hfull], rfl⟩
  · have h : appleMtSpiTransfer s val = some (r.toUInt32, { s₁ with
        tx := tx, irq := appleMtSpiBufIsEmpty s₁.pendingHbpp && s₁.pendingFw.isEmpty }) := by
      simp only [appleMtSpiTransfer, LL_PACKET_PREAMBLE_low]
      simp [hfirst, hb, hh, hfull, hpop]
    exact ⟨_, h, by rw [if_neg hfull], rfl⟩

/-- Source: `hw/arm/apple-silicon/mt-spi.c` `apple_mt_spi_transfer`. Kind: L -/
theorem appleMtSpiTransfer_of_hbpp_none {val : UInt32} {b : UInt8}
    (hfirst : appleMtSpiBufReadByte (appleMtSpiBufPushByte s.rx val.toUInt8) 0 = some b)
    (hb : b ≠ 0xEF)
    (hh : appleMtSpiHandleHbpp { s with rx := appleMtSpiBufPushByte s.rx val.toUInt8 } = none) :
    appleMtSpiTransfer s val = none := by
  simp only [appleMtSpiTransfer, LL_PACKET_PREAMBLE_low]
  simp [hfirst, hb, hh]

/-- The first byte of a DATA command into an empty `rx`: the frame length becomes `0xA`.
Source: `hw/arm/apple-silicon/mt-spi.c` `apple_mt_spi_transfer`
Kind: L -/
theorem appleMtSpiTransfer_hbpp_data_first (hrx : s.rx = appleMtSpiBufFree) (htx : s.tx.ReadPosOk) :
    ∃ r s', appleMtSpiTransfer s HBPP_PACKET_DATA.toUInt32 = some (r, s') ∧
      s'.rx = ⟨[HBPP_PACKET_DATA], 0xA, 0⟩ ∧ s'.tx.ReadPosOk := by
  have hpush : appleMtSpiBufPushByte s.rx HBPP_PACKET_DATA.toUInt32.toUInt8 =
      ⟨[HBPP_PACKET_DATA], 1, 0⟩ := by
    rw [hrx, UInt8.toUInt8_toUInt32]
    rfl
  have hh := appleMtSpiHandleHbpp_data_start
    (s := { s with rx := appleMtSpiBufPushByte s.rx HBPP_PACKET_DATA.toUInt32.toUInt8 }) hpush
  obtain ⟨r, tx, hpop, hok⟩ := appleMtSpiBufPop_of_readPosOk htx
  obtain ⟨s', h, hrx', htx'⟩ :=
    appleMtSpiTransfer_of_hbpp (b := HBPP_PACKET_DATA) (by rw [hpush]; rfl) (by decide) hh hpop
  refine ⟨_, s', h, ?_, htx' ▸ hok⟩
  rw [hrx']
  rfl

/-- The second to ninth bytes of a DATA header only join `rx`.
Source: `hw/arm/apple-silicon/mt-spi.c` `apple_mt_spi_transfer`
Kind: L -/
theorem appleMtSpiTransfer_hbpp_data_next {bs : List UInt8}
    (hrx : s.rx = ⟨HBPP_PACKET_DATA :: bs, 0xA, 0⟩) (hbs : bs.length < 8) (htx : s.tx.ReadPosOk)
    (b : UInt8) :
    ∃ r s', appleMtSpiTransfer s b.toUInt32 = some (r, s') ∧
      s'.rx = ⟨HBPP_PACKET_DATA :: (bs ++ [b]), 0xA, 0⟩ ∧ s'.tx.ReadPosOk := by
  have hpush : appleMtSpiBufPushByte s.rx b.toUInt32.toUInt8 =
      ⟨HBPP_PACKET_DATA :: (bs ++ [b]), 0xA, 0⟩ := by
    rw [hrx, UInt8.toUInt8_toUInt32]
    unfold appleMtSpiBufPushByte appleMtSpiBufPushBytes appleMtSpiBufEnsureCapacity
    rw [if_neg (by simp; omega)]
    rfl
  have hnf : appleMtSpiBufIsFull ⟨HBPP_PACKET_DATA :: (bs ++ [b]), 0xA, 0⟩ = false := by
    simp [appleMtSpiBufIsFull]
    omega
  have hh : appleMtSpiHandleHbpp { s with rx := appleMtSpiBufPushByte s.rx b.toUInt32.toUInt8 } =
      some { s with rx := appleMtSpiBufPushByte s.rx b.toUInt32.toUInt8 } := by
    rw [appleMtSpiHandleHbpp_of_data (by rw [hpush]; rfl)
      (by rw [hpush]; simp [appleMtSpiBufPosAtStart, appleMtSpiBufGetPos]),
      appleMtSpiHandleHbppData_of_not_full (by rw [hpush]; exact hnf)]
  obtain ⟨r, tx, hpop, hok⟩ := appleMtSpiBufPop_of_readPosOk htx
  obtain ⟨s', h, hrx', htx'⟩ :=
    appleMtSpiTransfer_of_hbpp (b := HBPP_PACKET_DATA) (by rw [hpush]; rfl) (by decide) hh hpop
  refine ⟨_, s', h, ?_, htx' ▸ hok⟩
  rw [hrx', hpush, hnf]
  rfl

/-- The tenth byte completes the DATA header. With `c` the capacity the header asks for, computed
in `uint16_t`: below `0xA` the capacity assertion fails; at `0xA` the command counts as complete
and `rx` is freed; above, `rx` waits for `c` bytes.
Source: `hw/arm/apple-silicon/mt-spi.c` `apple_mt_spi_transfer`, `apple_mt_spi_handle_hbpp_data`
Kind: L -/
theorem appleMtSpiTransfer_hbpp_data_last {bs : List UInt8}
    (hrx : s.rx = ⟨HBPP_PACKET_DATA :: bs, 0xA, 0⟩) (hbs : bs.length = 8) (htx : s.tx.ReadPosOk)
    (b : UInt8) :
    let c := (appleMtSpiHbppPacketHdrLen HBPP_PACKET_DATA +
      UInt16.ofNat (beValue ((bs.drop 1).take 2)) * 4 + 4).toNat
    (c < 0xA → appleMtSpiTransfer s b.toUInt32 = none) ∧
    (c = 0xA → ∃ r s', appleMtSpiTransfer s b.toUInt32 = some (r, s') ∧ s'.rx = appleMtSpiBufFree) ∧
    (0xA < c → ∃ r s', appleMtSpiTransfer s b.toUInt32 = some (r, s') ∧
      s'.rx = ⟨HBPP_PACKET_DATA :: (bs ++ [b]), c, 0⟩) := by
  intro c
  have hpush : appleMtSpiBufPushByte s.rx b.toUInt32.toUInt8 =
      ⟨HBPP_PACKET_DATA :: (bs ++ [b]), 0xA, 0⟩ := by
    rw [hrx, UInt8.toUInt8_toUInt32]
    unfold appleMtSpiBufPushByte appleMtSpiBufPushBytes appleMtSpiBufEnsureCapacity
    rw [if_neg (by simp; omega)]
    rfl
  have hfull : appleMtSpiBufIsFull ⟨HBPP_PACKET_DATA :: (bs ++ [b]), 0xA, 0⟩ = true := by
    simp [appleMtSpiBufIsFull, hbs]
  -- the length word is the header's third and fourth bytes, big-endian
  have hword : appleMtSpiBufReadWord ⟨HBPP_PACKET_DATA :: (bs ++ [b]), 0xA, 0⟩ 2 =
      some (UInt16.ofNat (beValue ((bs.drop 1).take 2))) := by
    have htake : ((bs ++ [b]).drop 1).take 2 = (bs.drop 1).take 2 := by
      rw [List.drop_append_of_le_length (by omega), List.take_append_of_le_length (by simp; omega)]
    simp only [appleMtSpiBufReadWord, List.length_cons, List.length_append, hbs,
      List.drop_succ_cons, htake]
    rw [if_pos (by simp)]
  let t := { s with rx := appleMtSpiBufPushByte s.rx b.toUInt32.toUInt8 }
  have htrx : t.rx = ⟨HBPP_PACKET_DATA :: (bs ++ [b]), 0xA, 0⟩ := hpush
  have hdispatch : appleMtSpiHandleHbpp t = appleMtSpiHandleHbppData t :=
    appleMtSpiHandleHbpp_of_data (by rw [htrx]; rfl)
      (by rw [htrx]; simp [appleMtSpiBufPosAtStart, appleMtSpiBufGetPos])
  have hdata := appleMtSpiHandleHbppData_of_full (s := t) (by rw [htrx]; exact hfull)
    (by rw [htrx]; exact hword)
  obtain ⟨r, tx, hpop, -⟩ := appleMtSpiBufPop_of_readPosOk htx
  refine ⟨fun hc => ?_, fun hc => ?_, fun hc => ?_⟩
  · apply appleMtSpiTransfer_of_hbpp_none (b := HBPP_PACKET_DATA) (by rw [hpush]; rfl) (by decide)
    rw [hdispatch, hdata]
    simp only [htrx]
    rw [if_neg (by omega), if_neg (by omega)]
  · have hh : appleMtSpiHandleHbpp t = some (appleMtSpiPushPendingHbppWord t HBPP_PACKET_ACK_DATA) := by
      rw [hdispatch, hdata]
      simp only [htrx]
      rw [if_pos hc.symm]
    obtain ⟨s', h, hrx', -⟩ :=
      appleMtSpiTransfer_of_hbpp (b := HBPP_PACKET_DATA) (by rw [hpush]; rfl) (by decide) hh hpop
    refine ⟨_, s', h, ?_⟩
    rw [hrx']
    exact if_pos (by show appleMtSpiBufIsFull t.rx = true; rw [htrx]; exact hfull)
  · have hh : appleMtSpiHandleHbpp t = some { t with rx := { t.rx with capacity := c } } := by
      rw [hdispatch, hdata]
      simp only [htrx]
      rw [if_neg (by omega), if_pos (by omega)]
    obtain ⟨s', h, hrx', -⟩ :=
      appleMtSpiTransfer_of_hbpp (b := HBPP_PACKET_DATA) (by rw [hpush]; rfl) (by decide) hh hpop
    refine ⟨_, s', h, ?_⟩
    have hnf : appleMtSpiBufIsFull { t.rx with capacity := c } = false := by
      rw [htrx]
      simp [appleMtSpiBufIsFull, hbs]
      omega
    rw [hrx', hnf, if_neg Bool.false_ne_true, htrx]

end hbpp

/-! ## Runs -/

section run

variable {s : AppleMTSPIState}

theorem appleMtSpiRun_append (s : AppleMTSPIState) (es es' : List MtSpiEvent) :
    appleMtSpiRun s (es ++ es') = (appleMtSpiRun s es).bind fun s' => appleMtSpiRun s' es' := by
  induction es generalizing s with
  | nil => rfl
  | cons e es ih =>
    simp only [List.cons_append, appleMtSpiRun, Option.bind_assoc, ih]

theorem appleMtSpiRun_transfer_cons {val : UInt32} {r : UInt32} {s' : AppleMTSPIState}
    (h : appleMtSpiTransfer s val = some (r, s')) (es : List MtSpiEvent) :
    appleMtSpiRun s (.transfer val :: es) = appleMtSpiRun s' es := by
  simp [appleMtSpiRun, appleMtSpiStep, h]

theorem appleMtSpiRun_transfer_cons_none {val : UInt32} (h : appleMtSpiTransfer s val = none)
    (es : List MtSpiEvent) : appleMtSpiRun s (.transfer val :: es) = none := by
  simp [appleMtSpiRun, appleMtSpiStep, h]

/-- The bytes of a DATA header before its tenth only join `rx`. The induction is on the bytes.
Source: `hw/arm/apple-silicon/mt-spi.c` `apple_mt_spi_transfer`
Kind: L -/
theorem appleMtSpiRun_hbpp_data_body (cs : List UInt8) {bs : List UInt8}
    (hrx : s.rx = ⟨HBPP_PACKET_DATA :: bs, 0xA, 0⟩) (hlen : bs.length + cs.length ≤ 8)
    (htx : s.tx.ReadPosOk) :
    ∃ s', appleMtSpiRun s (cs.map fun b => .transfer b.toUInt32) = some s' ∧
      s'.rx = ⟨HBPP_PACKET_DATA :: (bs ++ cs), 0xA, 0⟩ ∧ s'.tx.ReadPosOk := by
  induction cs generalizing s bs with
  | nil => exact ⟨s, rfl, by rw [hrx, List.append_nil], htx⟩
  | cons c cs ih =>
    simp only [List.length_cons] at hlen
    obtain ⟨_, s₁, h₁, hrx₁, htx₁⟩ := appleMtSpiTransfer_hbpp_data_next hrx (by omega) htx c
    obtain ⟨s', h, hrx', htx'⟩ := ih hrx₁ (by simp; omega) htx₁
    refine ⟨s', ?_, by rw [hrx', List.append_assoc, List.singleton_append], htx'⟩
    rw [List.map_cons, appleMtSpiRun_transfer_cons h₁, h]

/-- The capacity a DATA header asks for, as the code computes it in `uint16_t`, is
`0xA + 4 * len + 4` modulo `2^16`, with `len` the big-endian word at offset 2.
Source: `hw/arm/apple-silicon/mt-spi.c` `apple_mt_spi_handle_hbpp_data`
Kind: L -/
theorem hbppDataCapacity_toNat (b₁ b₂ b₃ : UInt8) (bs : List UInt8) :
    (appleMtSpiHbppPacketHdrLen HBPP_PACKET_DATA +
      UInt16.ofNat (beValue (((b₁ :: b₂ :: b₃ :: bs).drop 1).take 2)) * 4 + 4).toNat =
      (0xE + 4 * (b₂.toNat * 256 + b₃.toNat)) % 2 ^ 16 := by
  have hb₂ := b₂.toNat_lt
  have hb₃ := b₃.toNat_lt
  have hword : beValue [b₂, b₃] = b₂.toNat * 256 + b₃.toNat := by
    simp [beValue]
    omega
  have hhdr : appleMtSpiHbppPacketHdrLen HBPP_PACKET_DATA = 0xA := by decide
  simp only [List.drop_succ_cons, List.drop_zero, List.take_succ_cons, List.take_zero, hword, hhdr,
    UInt16.toNat_add, UInt16.toNat_mul, UInt16.toNat_ofNat', UInt16.reduceToNat]
  omega

/-- For every device state with `rx` empty (between frames) and `tx` poppable, and every ten
bytes starting with the DATA packet type: with `c = (0xA + 4 * len + 4) mod 2^16` for the length
word `len = b₂ b₃`, a header whose `c` is below `0xA` fails the assertion of
`apple_mt_spi_buf_set_capacity`; one whose `c` is `0xA` is taken as a complete command; and any
other leaves `rx` waiting for `c` bytes. A length word with `0xA + 4 * len + 4 > 0xFFFF` is never
rejected: it crashes the device or truncates the capacity.
Source: `hw/arm/apple-silicon/mt-spi.c` `apple_mt_spi_handle_hbpp_data`
Kind: P -/
theorem mt_spi_hbpp_data_len_truncated (s : AppleMTSPIState) (hrx : s.rx = appleMtSpiBufFree)
    (htx : s.tx.ReadPosOk) (b₁ b₂ b₃ b₄ b₅ b₆ b₇ b₈ b₉ : UInt8) :
    let header := [HBPP_PACKET_DATA, b₁, b₂, b₃, b₄, b₅, b₆, b₇, b₈, b₉].map
      fun b => MtSpiEvent.transfer b.toUInt32
    let c := (0xE + 4 * (b₂.toNat * 256 + b₃.toNat)) % 2 ^ 16
    (c < 0xA → appleMtSpiRun s header = none) ∧
    (c = 0xA → ∃ s', appleMtSpiRun s header = some s' ∧ s'.rx = appleMtSpiBufFree) ∧
    (0xA < c → ∃ s', appleMtSpiRun s header = some s' ∧
      s'.rx = ⟨[HBPP_PACKET_DATA, b₁, b₂, b₃, b₄, b₅, b₆, b₇, b₈, b₉], c, 0⟩) := by
  intro header c
  obtain ⟨_, s₀, h₀, hrx₀, htx₀⟩ := appleMtSpiTransfer_hbpp_data_first hrx htx
  obtain ⟨s₁, h₁, hrx₁, htx₁⟩ :=
    appleMtSpiRun_hbpp_data_body [b₁, b₂, b₃, b₄, b₅, b₆, b₇, b₈] hrx₀ (by simp) htx₀
  obtain ⟨hlow, hack, hgrow⟩ := appleMtSpiTransfer_hbpp_data_last hrx₁ (by simp) htx₁ b₉
  rw [List.nil_append, hbppDataCapacity_toNat] at hlow hack hgrow
  -- the header is its first byte, the eight that only join `rx`, and the one that completes it
  have hsplit : header = .transfer HBPP_PACKET_DATA.toUInt32 ::
      ([b₁, b₂, b₃, b₄, b₅, b₆, b₇, b₈].map fun b => MtSpiEvent.transfer b.toUInt32) ++
        [.transfer b₉.toUInt32] := rfl
  have hrun : appleMtSpiRun s header = appleMtSpiRun s₁ [.transfer b₉.toUInt32] := by
    rw [hsplit, appleMtSpiRun_append, appleMtSpiRun_transfer_cons h₀, h₁, Option.bind_some]
  refine ⟨fun hc => ?_, fun hc => ?_, fun hc => ?_⟩
  · rw [hrun, appleMtSpiRun_transfer_cons_none (hlow hc)]
  · obtain ⟨_, s', h, hrx'⟩ := hack hc
    exact ⟨s', by rw [hrun, appleMtSpiRun_transfer_cons h]; rfl, hrx'⟩
  · obtain ⟨_, s', h, hrx'⟩ := hgrow hc
    exact ⟨s', by rw [hrun, appleMtSpiRun_transfer_cons h]; rfl, hrx'⟩

/-- The device after a reset: every buffer free, no queued packet, the interrupt raised.
Source: `hw/arm/apple-silicon/mt-spi.c` `apple_mt_spi_reset_unlocked`
Kind: D -/
def mtSpiResetState : AppleMTSPIState where
  irq := true
  tx := appleMtSpiBufFree
  rx := appleMtSpiBufFree
  pendingHbpp := appleMtSpiBufFree
  pendingFw := []
  frame := 0
  x := 0
  y := 0
  prevX := 0
  prevY := 0
  prevTs := 0
  btnState := 0
  prevBtnState := 0

/-- After a reset, the length word `0x3FFD` (capacity `0x10002`, wrapped to `2`) crashes the
device on the tenth byte, and `0x4000` (capacity `0x1000E`, wrapped to `0xE`) leaves `rx` waiting
for 14 bytes. -/
theorem mt_spi_hbpp_data_len_truncated_reset :
    appleMtSpiRun mtSpiResetState ([HBPP_PACKET_DATA, 0, 0x3F, 0xFD, 0, 0, 0, 0, 0, 0].map
      fun b => MtSpiEvent.transfer b.toUInt32) = none ∧
    ∃ s', appleMtSpiRun mtSpiResetState ([HBPP_PACKET_DATA, 0, 0x40, 0, 0, 0, 0, 0, 0, 0].map
      fun b => MtSpiEvent.transfer b.toUInt32) = some s' ∧
      s'.rx = ⟨[HBPP_PACKET_DATA, 0, 0x40, 0, 0, 0, 0, 0, 0, 0], 0xE, 0⟩ :=
  ⟨(mt_spi_hbpp_data_len_truncated mtSpiResetState rfl (fun h => absurd rfl h)
      0 0x3F 0xFD 0 0 0 0 0 0).1 (by decide),
    (mt_spi_hbpp_data_len_truncated mtSpiResetState rfl (fun h => absurd rfl h)
      0 0x40 0 0 0 0 0 0 0).2.2 (by decide)⟩

end run

end QemuAppleSilicon.Arm
