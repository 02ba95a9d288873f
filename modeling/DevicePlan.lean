import DevicePlan.Main
import DevicePlan.Json.Reader
import DevicePlan.Proofs.DeviceSum
import DevicePlan.Proofs.Freeze
import DevicePlan.Proofs.Views
import DevicePlan.Proofs.Overrides
import DevicePlan.Proofs.Draft
import DevicePlan.Proofs.Job.Toml
import DevicePlan.Proofs.Plan.Codec
import DevicePlan.Proofs.Placement
import DevicePlan.Proofs.Job.Placement
import DevicePlan.Proofs.Devices
import DevicePlan.Proofs.Command.Run
import DevicePlan.Proofs.Fault
import DevicePlan.Proofs.Log
import DevicePlan.Proofs.Job.Pinned
import DevicePlan.Proofs.Plan.Text
import DevicePlan.Proofs.Attachment
import DevicePlan.Proofs.Placement.Fault
import DevicePlan.Proofs.Auxiliary
import DevicePlan.Proofs.Job.Fault
import DevicePlan.Proofs.Reordering
import DevicePlan.Proofs.Job.Unused
import DevicePlan.Proofs.Renaming
import DevicePlan.Proofs.Job.Json
import DevicePlan.Proofs.Capacity
import DevicePlan.Proofs.Policy.Codec
import DevicePlan.Proofs.History
import DevicePlan.Proofs.Names
import DevicePlan.Proofs.Command.Init
import DevicePlan.Proofs.Report
