import ApRoIntegrity.Bytes
import ApRoIntegrity.Layout
import ApRoIntegrity.Platform
import ApRoIntegrity.RecordPage
import ApRoIntegrity.Gscvd
import ApRoIntegrity.Scan
import ApRoIntegrity.Enforcement
import ApRoIntegrity.Run
import ApRoIntegrity.Images
import ApRoIntegrity.Hold
import ApRoIntegrity.Mandatory
import ApRoIntegrity.Soundness
import ApRoIntegrity.Cache
import ApRoIntegrity.Buffers
import ApRoIntegrity.Commit
import ApRoIntegrity.ScanVerdict
import ApRoIntegrity.Seeding
import ApRoIntegrity.Allocation
import ApRoIntegrity.WriteOnce
import ApRoIntegrity.HashReport
