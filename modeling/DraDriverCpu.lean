import DraDriverCpu.CpuInfo
import DraDriverCpu.Fmt
import DraDriverCpu.Device.Basic
import DraDriverCpu.Device.IndividualCore
import DraDriverCpu.Device.IndividualCatalogue
import DraDriverCpu.Device.Grouped
import DraDriverCpu.Device.Slices
import DraDriverCpu.Driver.Prepare
import DraDriverCpu.Driver.Exclusive
import DraDriverCpu.Driver.Capacity
import DraDriverCpu.Driver.Start
import DraDriverCpu.Driver.Scheduled
import DraDriverCpu.Driver.CdiSpec
import DraDriverCpu.Driver.Order
import DraDriverCpu.Driver.CpuList
import DraDriverCpu.Driver.Isolation
import DraDriverCpu.Driver.Publish
