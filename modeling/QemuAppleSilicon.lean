import QemuAppleSilicon.Lib.Bytes
import QemuAppleSilicon.Lib.Fifo
import QemuAppleSilicon.Lib.Bits32
import QemuAppleSilicon.Lib.NarrowLoop
import QemuAppleSilicon.Lib.CursorWalk
import QemuAppleSilicon.Lib.TracedRun
import QemuAppleSilicon.Lib.RingBuffer
import QemuAppleSilicon.Lib.BigEndian
import QemuAppleSilicon.Lib.EState
import QemuAppleSilicon.Lib.Cbc
import QemuAppleSilicon.Lib.Ctr
import QemuAppleSilicon.Qemu.Base
import QemuAppleSilicon.Qemu.Bitops
import QemuAppleSilicon.Qemu.FindNextBit
import QemuAppleSilicon.Qemu.Dma
import QemuAppleSilicon.Arm.Dtb.Node
import QemuAppleSilicon.Arm.Dtb.Serialise
import QemuAppleSilicon.Arm.Dtb.Deserialise
import QemuAppleSilicon.Arm.Dtb.Edit
import QemuAppleSilicon.Arm.Dart
import QemuAppleSilicon.Arm.DartTlb
import QemuAppleSilicon.Arm.DartIrq
import QemuAppleSilicon.Arm.Macho
import QemuAppleSilicon.Arm.Boot
import QemuAppleSilicon.Arm.Carveout
import QemuAppleSilicon.Arm.MtSpi
import QemuAppleSilicon.Arm.MtSpiFw
import QemuAppleSilicon.Arm.KernelLayout
import QemuAppleSilicon.Arm.A13
import QemuAppleSilicon.Arm.A13Ipicr
import QemuAppleSilicon.Arm.A13Deferred
import QemuAppleSilicon.Arm.Patcher
import QemuAppleSilicon.Arm.Lzss
import QemuAppleSilicon.Dma.Sio
import QemuAppleSilicon.Dma.SioStream
import QemuAppleSilicon.Dma.SioMap
import QemuAppleSilicon.Dma.SioDevice
import QemuAppleSilicon.Tcg.Wkdm.Format
import QemuAppleSilicon.Tcg.Wkdm.Compress
import QemuAppleSilicon.Tcg.Wkdm.Decompress
import QemuAppleSilicon.Tcg.Wkdm.Helper
import QemuAppleSilicon.Tcg.Wkdm.Packing
import QemuAppleSilicon.Tcg.Wkdm.RoundTrip
import QemuAppleSilicon.Nvram.Env
import QemuAppleSilicon.Nvram.Bank
import QemuAppleSilicon.Nvram.Serialize
import QemuAppleSilicon.A7iop.Mailbox
import QemuAppleSilicon.A7iop.Channel
import QemuAppleSilicon.A7iop.Rtkit
import QemuAppleSilicon.A7iop.Rollcall
import QemuAppleSilicon.A7iop.IntStatus
import QemuAppleSilicon.Intc.Aic
import QemuAppleSilicon.Intc.Routing
import QemuAppleSilicon.Intc.Iack
import QemuAppleSilicon.Gpio.AppleGpio
import QemuAppleSilicon.Gpio.Pending
import QemuAppleSilicon.Misc.PmuRtc
import QemuAppleSilicon.Misc.SpmiPmu
import QemuAppleSilicon.Misc.PmuD2255
import QemuAppleSilicon.Misc.Aop
import QemuAppleSilicon.Misc.Smc
import QemuAppleSilicon.Misc.SmcEndpoint
import QemuAppleSilicon.Misc.Aes
import QemuAppleSilicon.Watchdog.AppleWdt
import QemuAppleSilicon.Watchdog.Deadlines
import QemuAppleSilicon.Display.PipeV4
import QemuAppleSilicon.Spmi.AppleSpmi
import QemuAppleSilicon.I2c.AppleI2c
import QemuAppleSilicon.I2c.Transcript
import QemuAppleSilicon.I2c.Core
import QemuAppleSilicon.Ssi.AppleSpi
import QemuAppleSilicon.Qemu.Fifo8
import QemuAppleSilicon.Qemu.Fifo32
import QemuAppleSilicon.Sep.Ecc
import QemuAppleSilicon.Sep.Ssc
import QemuAppleSilicon.Crypto.Cipher
import QemuAppleSilicon.Sep.Aess
import QemuAppleSilicon.Misc.AesEngine
