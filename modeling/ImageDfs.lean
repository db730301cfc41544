import ImageDfs.Lib.LittleEndian
import ImageDfs.Lib.Search
import ImageDfs.Lib.Machine
import ImageDfs.Lib.Digits
import ImageDfs.Lib.Ring
import ImageDfs.Lib.CInt
import ImageDfs.Lib.Lines
import ImageDfs.Lib.Loop
import ImageDfs.Lib.KeyedLists
import ImageDfs.Lib.Strtol
import ImageDfs.Lib.Retry
import ImageDfs.Lib.Strcat
import ImageDfs.Basic
import ImageDfs.Common.Queue
import ImageDfs.Common.Network
import ImageDfs.Common.Config
import ImageDfs.Protocol.Frame
import ImageDfs.Protocol.Socket
import ImageDfs.Protocol.Client
import ImageDfs.Server.Main
import ImageDfs.Server.Process
import ImageDfs.Server.Work
import ImageDfs.Server.RoundTrip
import ImageDfs.Server.Uploads
import ImageDfs.Server.Paths
import ImageDfs.Server.Files
import ImageDfs.Server.Pool
import ImageDfs.Server.Initialize
import ImageDfs.Server.Mkdir
import ImageDfs.Server.DataFile
import ImageDfs.Server.SendThread
import ImageDfs.Server.SendFiles
import ImageDfs.Server.SendNet
import ImageDfs.Server.Exits
import ImageDfs.Server.LoadConfig
import ImageDfs.Server.Startup
import ImageDfs.Server.Service
import ImageDfs.Server.Monitor
