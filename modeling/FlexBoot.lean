import FlexBoot.Infra.Run
import FlexBoot.Infra.Bytes
import FlexBoot.Infra.Buffer
import FlexBoot.Core.String
import FlexBoot.Core.Misc
import FlexBoot.Core.Bitmap
import FlexBoot.Core.DriverSettings
import FlexBoot.Core.Base16
import FlexBoot.Core.Base64
import FlexBoot.Crypto.Chap
import FlexBoot.Crypto.Md5
import FlexBoot.Drivers.Block.Scsi
import FlexBoot.Drivers.Net.Ipoib
import FlexBoot.Net.Udp.Tftp
import FlexBoot.Net.Tcp.Http
import FlexBoot.Net.Tcp.Iscsi.RootPath
import FlexBoot.Net.Tcp.Iscsi.Session
import FlexBoot.Net.Tcp.Iscsi.Login
import FlexBoot.Net.Tcp.Iscsi.Engine
import FlexBoot.Properties.Tftp
import FlexBoot.Properties.Http
import FlexBoot.Properties.RootPath
import FlexBoot.Properties.Ipoib
import FlexBoot.Properties.IscsiLogin
import FlexBoot.Properties.IscsiData
import FlexBoot.Crypto.X509
import FlexBoot.Properties.X509
import FlexBoot.Core.Settings
import FlexBoot.Properties.Ipv6
import FlexBoot.Properties.Settings
import FlexBoot.Net.Tcp
import FlexBoot.Properties.TcpState
import FlexBoot.Infra.SortedList
import FlexBoot.Properties.TcpRx
import FlexBoot.Image.Png
import FlexBoot.Properties.Png
import FlexBoot.Crypto.Asn1
import FlexBoot.Properties.Asn1
import FlexBoot.Properties.Asn1Builder
import FlexBoot.Core.SettingsTree
import FlexBoot.Properties.SettingsOrder
import FlexBoot.Crypto.Ocsp
import FlexBoot.Properties.Ocsp
import FlexBoot.Properties.X509Chain
import FlexBoot.Infra.Limbs
import FlexBoot.Crypto.Bigint
import FlexBoot.Properties.Bigint
import FlexBoot.Crypto.Hmac
import FlexBoot.Net.Tls.Prf
import FlexBoot.Properties.Hmac
import FlexBoot.Properties.TlsPrf
import FlexBoot.Crypto.Drbg
import FlexBoot.Properties.HmacDrbg
import FlexBoot.Properties.Drbg
import FlexBoot.Infra.Calendar
import FlexBoot.Core.Time
import FlexBoot.Properties.Time
import FlexBoot.Properties.Asn1Integer
import FlexBoot.Properties.Asn1Time
import FlexBoot.Properties.TcpOpts
import FlexBoot.Properties.IscsiStrings
import FlexBoot.Properties.IscsiRx
import FlexBoot.Properties.TftpBlock
import FlexBoot.Properties.HttpFraming
import FlexBoot.Net.Neighbour
import FlexBoot.Drivers.Net.IpoibNet
import FlexBoot.Properties.IpoibNet
import FlexBoot.Infra.Digest
import FlexBoot.Crypto.Sha256
import FlexBoot.Crypto.Sha1
import FlexBoot.Properties.Fips180
import FlexBoot.Properties.Rfc1321
import FlexBoot.Properties.Digest
import FlexBoot.Net.Dhcpopts
import FlexBoot.Properties.Dhcpopts
import FlexBoot.Usr.Pxemenu
import FlexBoot.Properties.Pxemenu
import FlexBoot.Net.Udp.Dns
import FlexBoot.Properties.DnsNames
import FlexBoot.Properties.DnsEncode
import FlexBoot.Properties.Ipv6Text
import FlexBoot.Properties.NumericSetting
import FlexBoot.Properties.ExpandSettings
import FlexBoot.Properties.PngFilter
import FlexBoot.Properties.PngChunks
import FlexBoot.Properties.PngInterlace
import FlexBoot.Libgcc.Divmod
import FlexBoot.Properties.Divmod
import FlexBoot.Core.Isqrt
import FlexBoot.Properties.Isqrt
import FlexBoot.Infra.Lines
import FlexBoot.Core.Linebuf
import FlexBoot.Properties.Linebuf
import FlexBoot.Properties.SettingsName
import FlexBoot.Properties.Base64
import FlexBoot.Core.Vsprintf
import FlexBoot.Properties.Vsprintf
import FlexBoot.Infra.BitString
import FlexBoot.Infra.CanonicalCode
import FlexBoot.Crypto.Deflate
import FlexBoot.Properties.DeflateBits
import FlexBoot.Properties.DeflateHuffman
import FlexBoot.Crypto.Inflate
import FlexBoot.Properties.InflateRun
import FlexBoot.Infra.Backref
import FlexBoot.Properties.InflateOutput
import FlexBoot.Properties.InflateStored
import FlexBoot.Properties.InflateZlib
import FlexBoot.Properties.InflateFixed
import FlexBoot.Properties.InflateBounds
import FlexBoot.Properties.InflateDynamic
