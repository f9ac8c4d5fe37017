import Mathlib.Init

/-!
# Operations of the functional units

The part of `ariane_pkg` that the modelled units read: the operations in the order of their
encoding and what is asked of them, the atomic operations that go to the data cache, and the
size and the bytes of an access.
-/

namespace Cva6Hpd.Ariane

/-! ## Operations -/

/-- `fu_op`. -/
inductive FuOp where
  | add | sub | addw | subw | xorl | orl | andl | sra | srl | sll | srlw | sllw | sraw | lts
  | ltu | ges | geu | eq | ne | jalr | branch | slts | sltu | mret | sret | dret | ecall | wfi
  | fence | fenceI | sfenceVma | hfenceVvma | hfenceGvma | csrWrite | csrRead | csrSet
  | csrClear | ld | sd | lw | lwu | sw | lh | lhu | sh | lb | sb | lbu | hlvB | hlvBu | hlvH
  | hlvHu | hlvxHu | hlvW | hlvxWu | hsvB | hsvH | hsvW | hlvWu | hlvD | hsvD | amoLrw | amoLrd
  | amoScw | amoScd | amoSwapw | amoAddw | amoAndw | amoOrw | amoXorw | amoMaxw | amoMaxwu
  | amoMinw | amoMinwu | amoSwapd | amoAddd | amoAndd | amoOrd | amoXord | amoMaxd | amoMaxdu
  | amoMind | amoMindu | cboClean | cboFlush | cboInval | cboNone | mul | mulh | mulhu | mulhsu
  | mulw | div | divu | divw | divuw | rem | remu | remw | remuw | fld | flw | flh | flb | fsd
  | fsw | fsh | fsb | fadd | fsub | fmul | fdiv | fminMax | fsqrt | fmadd | fmsub | fnmsub
  | fnmadd | fcvtF2i | fcvtI2f | fcvtF2f | fsgnj | fmvF2x | fmvX2f | fcmp | fclass | vfmin
  | vfmax | vfsgnj | vfsgnjn | vfsgnjx | vfeq | vfne | vflt | vfge | vfle | vfgt | vfcpkabS
  | vfcpkcdS | vfcpkabD | vfcpkcdD | offload | orcb | rev8 | rol | rolw | ror | rori | roriw
  | rorw | sextb | sexth | zexth | cpop | cpopw | clz | clzw | ctz | ctzw | clmul | clmulh
  | clmulr | bclr | bclri | bext | bexti | binv | binvi | bset | bseti | max | maxu | min
  | minu | sh1adduw | sh2adduw | sh3adduw | adduw | slliuw | sh1add | sh2add | sh3add | andn
  | orn | xnor | accelOp | accelOpFs1 | accelOpFd | accelOpLoad | accelOpStore | czeroEqz
  | czeroNez | pack | packH | packW | brev8 | unzip | zip | xperm8 | xperm4 | aes32esi
  | aes32esmi | aes64es | aes64esm | aes32dsi | aes32dsmi | aes64ds | aes64dsm | aes64im
  | aes64ks1i | aes64ks2 | sha256sig0 | sha256sig1 | sha256sum0 | sha256sum1 | sha512sig0h
  | sha512sig0l | sha512sig1h | sha512sig1l | sha512sum0r | sha512sum1r | sha512sig0
  | sha512sig1 | sha512sum0 | sha512sum1
deriving DecidableEq

namespace FuOp

/-- The range `[first : last]` of the encoding. -/
def inside (first last op : FuOp) : Bool :=
  decide (first.ctorIdx ≤ op.ctorIdx) && decide (op.ctorIdx ≤ last.ctorIdx)

/-- `is_amo`. -/
def isAmo (op : FuOp) : Bool := inside amoLrw amoMindu op

/-- `is_rd_fpr`. -/
def isRdFpr (op : FuOp) : Bool :=
  inside fld flb op || inside fadd fnmadd op || inside vfmin vfsgnjx op
    || inside vfcpkabS vfcpkcdD op
    || op ∈ [fcvtI2f, fcvtF2f, fsgnj, fmvX2f, accelOpFd]

/-- `fd_changes_rd_state`. -/
def fdChangesRdState (op : FuOp) : Bool :=
  op ∉ [fsd, fsw, fsh, fsb, fcvtF2i, fmvF2x, fclass]

/-- `extract_transfer_size`. -/
def extractTransferSize : FuOp → BitVec 2
  | ld | hlvD | sd | hsvD | fld | fsd | amoLrd | amoScd | amoSwapd | amoAddd | amoAndd | amoOrd
  | amoXord | amoMaxd | amoMaxdu | amoMind | amoMindu => 3
  | lw | lwu | hlvW | hlvWu | hlvxWu | sw | hsvW | flw | fsw | amoLrw | amoScw | amoSwapw
  | amoAddw | amoAndw | amoOrw | amoXorw | amoMaxw | amoMaxwu | amoMinw | amoMinwu => 2
  | lh | lhu | hlvH | hlvHu | hlvxHu | sh | hsvH | flh | fsh => 1
  | lb | lbu | hlvB | hlvBu | sb | hsvB | flb | fsb => 0
  | cboClean | cboFlush | cboInval => 0
  | _ => 3

end FuOp

/-- `amo_t`. -/
inductive AmoT where
  | none | lr | sc | swap | add | and | or | xor | max | maxu | min | minu | cas1 | cas2
deriving DecidableEq

/-! ## Byte enables -/

/-- `be_gen`. -/
def beGen (addr : BitVec 3) (size : BitVec 2) : BitVec 8 :=
  match size.toNat, addr.toNat with
  | 3, _ => 0b11111111
  | 2, 0 => 0b00001111
  | 2, 1 => 0b00011110
  | 2, 2 => 0b00111100
  | 2, 3 => 0b01111000
  | 2, 4 => 0b11110000
  | 1, 0 => 0b00000011
  | 1, 1 => 0b00000110
  | 1, 2 => 0b00001100
  | 1, 3 => 0b00011000
  | 1, 4 => 0b00110000
  | 1, 5 => 0b01100000
  | 1, 6 => 0b11000000
  | 0, 0 => 0b00000001
  | 0, 1 => 0b00000010
  | 0, 2 => 0b00000100
  | 0, 3 => 0b00001000
  | 0, 4 => 0b00010000
  | 0, 5 => 0b00100000
  | 0, 6 => 0b01000000
  | 0, 7 => 0b10000000
  | _, _ => 0

/-- `be_gen_32`. -/
def beGen32 (addr : BitVec 2) (size : BitVec 2) : BitVec 4 :=
  match size.toNat, addr.toNat with
  | 2, _ => 0b1111
  | 1, 0 => 0b0011
  | 1, 1 => 0b0110
  | 1, 2 => 0b1100
  | 0, 0 => 0b0001
  | 0, 1 => 0b0010
  | 0, 2 => 0b0100
  | 0, 3 => 0b1000
  | _, _ => 0

end Cva6Hpd.Ariane
