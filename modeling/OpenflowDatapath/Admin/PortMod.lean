import OpenflowDatapath.Control.Features

/-! # Modifying a port

`dp_update_port_flags` resolves the port number of a port-mod as `lookup_port` does, checks
the request's hardware address against the port's device, and sets the bits of the port's
`config` under the request's mask. On every reachable state it never oopses: it rewrites that
one field of that one port and nothing else, or it rejects the request with -1 and changes
nothing.
-/

namespace OpenflowDatapath

open Function

/-- `set_config(mask, bits)`: the bits under `mask` come from `bits`, the others stay. -/
def setConfig (mask bits config : UInt32) : UInt32 := config &&& ~~~mask ||| bits &&& mask

theorem setConfig_zero (bits config : UInt32) : setConfig 0 bits config = config :=
  UInt32.eq_of_toBitVec_eq (show config.toBitVec &&& ~~~0#32 ||| bits.toBitVec &&& 0#32 =
    config.toBitVec by rw [BitVec.not_zero, BitVec.and_allOnes, BitVec.and_zero, BitVec.or_zero])

/-- What `dp_update_port_flags` does with a port-mod: the state it leaves and what it returns. -/
inductive PortModOutcome (s : Sys) (dp : Datapath) (opm : PortMod) : Sys → Int → Prop where
  -- No port has that number.
  | noPort : lookupPort dp opm.portNo = none → PortModOutcome s dp opm s (-1)
  -- The port's device has another address: the request is stale.
  | stale {p : PortRef} {port : BridgePort} {dev : NetDevice} :
      lookupPort dp opm.portNo = some p → s.portHeap p = some port → s.devs port.dev = some dev →
      opm.hwAddr.take 6 ≠ dev.devAddr.take 6 → PortModOutcome s dp opm s (-1)
  -- The port's `config` takes the request's bits under its mask, and nothing else changes.
  | updated {p : PortRef} {port : BridgePort} {dev : NetDevice} :
      lookupPort dp opm.portNo = some p → s.portHeap p = some port → s.devs port.dev = some dev →
      opm.hwAddr.take 6 = dev.devAddr.take 6 →
      PortModOutcome s dp opm
        { s with
          portHeap := update s.portHeap p
            (some { port with config := setConfig opm.mask opm.config port.config }) } 0

variable {s : Sys} {a : DpRef} {dp : Datapath}

/-- On every reachable state `dp_update_port_flags` returns with an outcome of `PortModOutcome`. -/
theorem dpUpdatePortFlags_outcome (hs : Reach s) (hlive : Live s a dp) (opm : PortMod) :
    ∃ s' r, dpUpdatePortFlags s a opm = .ok (s', r) ∧ PortModOutcome s dp opm s' r := by
  have ht := reach_port_tables hs
  simp only [dpUpdatePortFlags, hlive.2, deref_some, ok_bind]
  cases hl : lookupPort dp opm.portNo with
  | none => exact ⟨s, -1, rfl, .noPort hl⟩
  | some p =>
    -- the port tables give the port and its device
    obtain ⟨hmem, port, hp, -⟩ := (ht.lookup a dp opm.portNo p hlive).1 hl
    obtain ⟨_, dev, hp', hdev⟩ := ht.member_dev hlive hmem
    obtain rfl := Option.some.inj (hp.symm.trans hp')
    simp only [hp, hdev, deref_some, ok_bind]
    by_cases hmac : opm.hwAddr.take 6 = dev.devAddr.take 6
    · rw [if_neg (not_not.2 hmac)]
      by_cases hmask : opm.mask = 0
      · -- an empty mask sets no bit
        have hsame : { s with
            portHeap := update s.portHeap p
              (some { port with config := setConfig opm.mask opm.config port.config }) } = s := by
          rw [hmask, setConfig_zero]
          show { s with portHeap := update s.portHeap p (some port) } = s
          rw [← hp, update_eq_self]
        have h : PortModOutcome s dp opm _ 0 := .updated hl hp hdev hmac
        rw [hsame] at h
        rw [if_pos hmask]
        exact ⟨s, 0, rfl, h⟩
      · rw [if_neg hmask]
        exact ⟨_, 0, rfl, .updated hl hp hdev hmac⟩
    · rw [if_pos hmac]
      exact ⟨s, -1, rfl, .stale hl hp hdev hmac⟩

theorem portMod_eth0_demo :
    Reach demoSys ∧ Live demoSys 0 demoDp ∧
      ∃ s' r, dpUpdatePortFlags demoSys 0 ⟨1, [0, 1, 2, 3, 4, 5], 1, 1⟩ = .ok (s', r) ∧
        PortModOutcome demoSys demoDp ⟨1, [0, 1, 2, 3, 4, 5], 1, 1⟩ s' r :=
  ⟨reach_demoSys, ⟨⟨0, rfl⟩, rfl⟩, dpUpdatePortFlags_outcome reach_demoSys ⟨⟨0, rfl⟩, rfl⟩ _⟩

example : ∃ s', dpUpdatePortFlags demoSys 0 ⟨1, [0, 1, 2, 3, 4, 6], 1, 1⟩ = .ok (s', -1) :=
  ⟨_, rfl⟩

end OpenflowDatapath
