import A3sBox.Core.Pty
import A3sBox.Core.Log
import A3sBox.Runtime.Scale
import A3sBox.Runtime.Resize
import A3sBox.Runtime.NetworkStore
import A3sBox.Runtime.WarmPool
import A3sBox.NetProxy.Relay
import A3sBox.Image.StoreConcurrency
import A3sBox.Build.LayerRoundTrip
import A3sBox.Build.ParserLaws
import A3sBox.Build.ParserSafety
import A3sBox.Build.Wildcard
import A3sBox.Build.DiffId
import A3sBox.Tee.Rollback
import A3sBox.Tee.Ratls
import A3sBox.Cli.Compose
import A3sBox.Runtime.VolumeAttach
import A3sBox.Cli.ImageUsage
import A3sBox.Cli.Monitor
import A3sBox.Cri.ContainerRaces
import A3sBox.Cri.PortForwardBytes
import A3sBox.Cri.SpdyExec
import A3sBox.Image.RootfsWrites
import A3sBox.Runtime.FailedBoot
import A3sBox.Runtime.LowerLayers
import A3sBox.Runtime.VolumeMounts
import A3sBox.Cri.ExecRoutes
import A3sBox.Image.PullPlatform
import A3sBox.Image.PullVerified
