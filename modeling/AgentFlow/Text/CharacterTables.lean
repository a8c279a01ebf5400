import AgentFlow.Text.Archive
import AgentFlow.Text.Basic

/-!
# Tables of characters

Four tables are archived together: letters with marks, other characters that stand for others, marks
with their classes, and the small letters of capital ones.  The modules that use a table say what
its rows mean.
-/

namespace AgentFlow.Text

/-- The tables of characters, with bars between them and spaces between their rows. -/
def characterTables : Archive := ⟨29263, "
 U=#C:Ggfz!BY5b?0,g(UVCHRKg+q^39^[UAZEPNtH1uxH7'z1>01a>5YuNZAYM]_VN1<Ra[3%~_khEyYz&Mxu!HJyx76Th$+2zS
 LQd(..g6Ff>u$Cx:IJK@oNEL;P<.RePO;DHI+f9ZB?>+!6]|cx.+y*mL=CIb$Zg7ODK6]N!,HSOY6I03C,S9.TZ%7!@a#.BgH$'
 wY+&Pvj4=!<CWa*_c?riF]wG38pW2gimjj~bRUEbLV!IcxI4^)zJ(vj4r!s~?WlS6aZL&33OE_ZZqoVLYGQ.olA^?]dD^77I7KS
 C!n40P0+lQiieBId+lR$*1IT'A3=IvWBS^M[(%fLWU8r!OZ~Qr5[CviW&74ywAi]j*%LD;eO5<Xx%~7AaV!lt4(@v,u>=W9T(%$
 RX8DOl!ea_]n56V&w%EA:[Z^KqTeS'&>hN^|jbVS^SL5gIN|Y5RdgNKYO@s]]m>|ET:q.?4M:2H3Pxn#mZsco6;K:iYQY?H*xwS
 whrTt)^ZaC*aFMI|&9sid~W!8WNTkx]kH_@&gt#%8VOCLDh27@mWKL&X#_5g0RmB60^([x'L]dyI(S>V0zmk@fnMx,W8SW0lR:I
 *1'(N(*E08hktf?VuR(<vVYCX=TZVECM[p^|m!6pQZZc<<rrsSMsJ,hgLt9qyP+N<w7xj:c6s2a)l#Yx%t9ZuBaC<4^ABRV3Q~^
 XqA7>MXMI%UH]3K@Pz'1zZK_W|cE=vXVv*Ii[wrZkXZ%Ejb[SuPj':lt)Ed4$jUq1o#vl.i@OOFx(RiZ,QobC5V.mk5TwbcMN)G
 J0aqy0v8eVxrw.U;8XOeioe^T*py,'R&cPOKljG0KD1;U|Qee.RT(~aTQvkObpjtWyHvK$d'rs2d@|CP*>u0:m?([zM;aA$k0KB
 6vXP952&Az1P1hph<Hbqj49o3=XK(t^0SL9GQRME[Cu<kp2o<Cuxuxm|8%a;i((ve&WQu23lj%uM'(Gk+F2NFkxy$ClX]yps+Wj
 ]ukeWlENdR*;0u*J234^Af5&p&g]i6fo>boj0JKJ?<KA&AnCh;H2DgB=0rVm@h@j>yApDQyEA+nQcw5YmuS;A7$W+fzbm8zY]o;
 Vy8_TBOcMP?u<KSIwjGD,o59ZT3#RmTn|9Dfb$b*7BORVXD$:mgd?9K3!FXm,XO8nO9T6o<A*K_K?4ljY1L]i7aszlgF^ru0w9]
 &s!#9!D=A,1dh(pdSTj;1VsVe+(dPt+gnV.B(uM4n#uRsC&QKr1r3P[DZv~)yB^j=3XQG;M#,G[~m<(^J]y&Qe7l,Wm3v:e=Nq^
 6yZ9fBh1WnwP7,CZ|)UIw2Z@HQiAq_h%C3:Vo5RLxXF0ctCw;om:;E^JN4uwoDvtXE73gS|;@FN[W#]Rf'$':3rPe9J8I@4;f_^
 FKWkI#JG:qDTI,_T5KLNNzvooJJjTUi:u^KB~a~]LfK_Mu_3QeJ0:cM[e.Q1_Xg%,0&|eY0%P1D*46SF2Fr?+[_ZNlzhbR5mU]9
 #^wLIy7;26%dC'z+gokzyTyvjbKyJ<^P9W64!BqIU2g1e9.&]!j%]H.[f&xR6?>(MGlz^04EJNv[DSfDPvHp8h1&MHtr[k3X%E<
 MG5gcq,Y!XI|3#~~B8G$Pb?6R?[RQ*&<$VvGMX)af$M]&n&((+I;_k+]U(BNGSb,[xMndi^P7j%:c,uc]nzKa.Hl7;uozF6WHN(
 1DY24[HKE8Q@;4R$[r+^@[n5L564|*2ZMV*[C^mv|Rn1TuS;>+8$6G@K@@Xw29lcipKW=+$F'B!KDA]F?TfxkQD|YnpVoeVUz8!
 JcjrHz]0ovmQ=0t9U[7E5hlvL'G8:XtRhfvI3cvv]6tY#B?#4n<3jdTXeJgiVpGy1=X2n$X7maO6(^YQqb>_Dq$6<8v)=n~alNj
 7fy%#4KfZ!ve0b'zt5A.E[*Jz4(,:D$thz~:98d~+LT5vi~=NlK>QsVPh@.3N!4QzKaGABwRu,|]SF+Jjnb>4?Km8dkwRLbvQGx
 U,Oo__u,0%~fN|3$1MP4'?tsC+8*Pcpy$p^tH*|0qZ@Pi0h[T=($o(P)V|p2XL^(5bmtk9N*E.%wT<#O9NX!?U,rA4[ffx]Dg_R
 UyE^dN4q__F;IRW#fPh6w'0!d!qK;JRQ>Dhwk7MZR26Qx'CHyxM8!)H5nbQQaRXcyFggHRI%u'W:[#Cv?V5ciFLvlZ&+ee|J9!f
 AI0WZvORrYK>lgTP+T8)$X>d6qz<JiSD4SnGD=:ATGtq_CN@BodwtysCy5,elD9#$f=OiX5+e4SE5_u(E(FTH8VI#>_Y>7:$HT6
 a'foq3(_^D^:N'S1s?>1*CHV%nfDgj)3sm7ROE]JGg>PpSayfn'Nj0usoLtEl88$e6)&w&'hKq$3e[I[*P&eMB9Vj)'scAD:y.F
 ~_MG23=5YKF8kZ>Hd(?1l4ELy==s[DC5g?H~d)*d5|~*~<6n#A7GpU+VvI=a<@0+j=jq_kUFRQ)a,~,D;0coPAH>9F,gufr5%ux
 &4,HQ,5s^E)VJ0mm'6R0Zj;[w#o0XEdzw+rf@v_z*r=%gzYZ_:Ekm?f][KUakT&[_sorlX]5Fy;sReLhcUYPq^DRI.mcO2W=[4g
 [y3U74xn?%J6$ogsWEorX5<'_Jf5@(l!plnuerlM*o9;sMCRe'C[M|bJo@k:BeU?1Hwr6VQm9_!rfgOdmOyJLuoMave;'Z8r'e=
 hL<BVNj$;[@cBbVBPfoh$NNbEB9r._7e&RH5MG|D_Hb[w]&:4izLxX<wP|:mJx!jk#D8^dZNdQDP[b*;!?yw@YT@X2cr@;s_zE[
 jG)9ea0)m>u&qG)mYv8>Dn9wRW8,ZROsNek^;lLztYV:z4~eaI36+X,=oQL'TAukB]*a*kiO9I9e%RdZqhtaF4]L'15aAZL8frV
 ^mFUS+UP!G8h]$=pD~6BR;7NN~::=?+e+.K!rAr!GKmU8sFgu;E,gp2jXH&Urlkb8a$v6cAMv@f%Ff8]])!JRd.NXfK>XS(+?|Q
 QNRK<NLJqDVD)v<at+Kg'9.iAU+|+L>Q*HiHXErqkBx^Fp@1CKJNmvowCdzNKfzh$9aZ,Hy75c9$;'A#>7e~2huT.mXblzH@7Ru
 1h7bt~7Vi0|],d&cGkDXP1G[*w:mO+Qn>EjFp:]Z1.aLK5Ow#@K^!nNA(zLr~&|(FO6Hg<$cPW+]X,*FhzSryR2*#=jP5>f[z[!
 h.l7EkMR2bT1*feChl%_fr&UVdb_>1R.RY;!uWOL2MJrt);bTH4|l&ig:6q_!b(NReAQgJ@ZWDg^gAgca;(3Fg?_gXev%iy&*y=
 37LP]de(4@5VLOn+iX0nvy+**FYwl1[0s|u1ey^?:89L'[C[zN8r;#U(iBsp;c8nTX7%Xt#a.#pZ%?7Pq=Px]Bye071vU&0jis+
 z.rHD$q:Z34AjP~[)QZm]GS4RGOr7LtN(!o3XDCOM,J174(Q_7R:~|AY~ihk;1L7VTi~x7_Jvf28uq.&FI?$uQECc4Tw8GAdcsQ
 <|K|w.qbS]z=frX1o2<opp@nhje(3b=%=$z)?zl:NWlAij8bFLrzFQtAd|(b^M$&vIxA#flp*&d!@]hLyD2>R&U_N;g@kdo>i@I
 vEFUgq<ql0|Q>KBlBp%(zU65c%S?)w@ef~jd4(>M%KV0J8O]R>opX^lJlvLAe[Tnuo2|la:eqRUxY.D8M|YtyU2T#h1,(k[297=
 4@A~l[]nJP>=)5':z:dP#I.y.TsJwJsyCltd?2s'w*yO]S#>vx9,3wuG1:&zwZV!&Rsn43Bn=Qv2I(QqIfqxMuF6F<_]L7T$P>!
 7k9z&p=.~<XCW1m$t>t#c[ElP7y^4c:7jQz+Dg0jR'%XH,E_Ag[,]|U$$|A;W<Cx2IJ)8hUnqC<K2gpw2JEmKjdA;qz8wjQE2N&
 BN(k#_|4'd)f4c=SkN=u>)hjsMZs*APRT*xF+Vrf:n)y_1AZ#y>nK;T90ip%&,8J=%G]SZMlJ=0gF42pzV>fV=MH5c$xi@Q!gJL
 ,P_al,m%&w~te2:jfC$Rg7xyD%_JJU():u;DE([bthp5t>4;Bj7GX7hWsyiO9mU&Hca<vTsw.qu;$|TCLDgGiz[[nFRt6l38LO>
 =eelxI7)Z=6;Vg7;Hj)A*>,r4y;=>oc>)yx*ppb_k]h^alwnvsk~+6jvg_2bZDNi?R+Rf~I(('@?trHyBGg,49;y!Ps:%q5.?;3
 ?;>*:W1F@i~ig5CZ5KGTs.qbQ;lSTAI:OR3B2m1:RA>'NW>o7@;f<8MJ_c=]5MoW9'4H])@[QobJqK]I?hE<F?)XP.284OCRcqG
 &2lHXr[1>Q92oiz8:L;^5ott^pKuz>Aqly.sEoemWBK&#XU>|&Smw#UWR;2'_:P%7ojsocA@+gg9,U'9Q(|piSv<@ZV:5m9bKOf
 u:76J!TM]|Rvf>&j[:w+?)pPn9(4G1c9@Oo.1]>r0=zMmbrl.#jgetu9rLt2c.&d%LAs5.hf@qC_T9b|qRwfYo_]FtzQ3!r#.R'
 m'q&9oNX++kpXyG.Fe6lAWEz,S:*FBq3fEz$J!c02.!DPf^%5P[0FEhWV]c0r^+MYA@MC2ei95fp<LfH2o~##u%?Z:bGqZ!QL)]
 3hAB]4V3h(;TCKc@a[8CC3_iz=p*E*mW>NtB@CP.3q^!LP6u]ZeiZC6(2^FHA<!eaIJNEOU0fu&+F(i)hPOk@'lnHFTSU)H3#|.
 X8ra:$bAo35hL[A0*xqnQpzBU5&Z>;Erii0btcssTV!%F#Z8nVZL!~yL?W%5Sw|XiAzjZx,TiMBkjd=QRkn*yb$iau?[gDp[,*[
 Igs_3=tgIP)b7ULRDk@3Vjk&)=6^,yDsg=u%RoD<4i1Qhj=hW(+EspK,fM)rI]=|w[kgdhk]?_gyb'<$px+,z<sU$>rRn41M=F3
 PE:NpzSF5)ag::clMhQ!?eU[ML<$<TiHgO1q^%k]sD6b)zV,7Y9;Cq*rrUpWpE+&UE'zzf_~4IsxH!'8:w+|569~7~tua41Y:Mp
 2f:1WyP)KstYP5T'fUBw:u@6;wJAHP$?60iLgWqj]O#_Tgl,A[4KIJs_ndk0nx$E,g|QA0vASkc7IFNQ>o468=tVL1];Z~L9l@Y
 e]Db$lbI9Ye[g(*y=Ef6Z<o~2]t)'L1k1%c4;ak]_?|fBbmQ8<?$M!<]iCzUl)+z~4&kgA5n!YZZPR)oM!_L48C$:e1Mu~lOT.8
 EaN,SS.*Yu=Sl(|NlBbE=<I@:a@z+2M!T5^=<kxKYh%ry5p?%qSp,LzuTO4|Y,r|c$8>sM$YY',q48]U6uB%LquWQh.Rk!#bwQ*
 B)ZQ2dSJ@o=|v5zIjN=e+)zq9>X5AbJdd[T]EZ=PIqM_sZ;ug3iwnU!U#f7KAf@Tn'5^QyNwA@Ilg1U:u(:TPI<;44TpxWOZ5Vx
 |c'D5BDLjBB7cjlg^YM*WAe%6R7w^[|^f_n((1r%Yx>DXMty<taFbk_lNNSvHvVZ)X8&@=eiy&Hlx6Qe>okWlw*h,Y8cf=1pgGl
 #nmmEs0K2QOfkP?n&(=IN:#%!+2S<Dm<+S9z)::[6N.r$0jlH,H~>D12(H%3MY#~DeOv1Jm7eeDq|eI[WcZOK56y*np5FoA@aIs
 ?_n~.&V?Gf(eMRbDY>wiUxrz3JQ@aXIn8=wB6wFW:g?c6g&RSkkCQtN_3dqR=XR#BY(4uRE3;H2x]mos^EyOm9Hu!v(reArE_nE
 n)DbR<@S'G&h%&yuTxQo).(FGi[[MWC1.vkwe2d*1z1gVL2OqtT!=;#>Ap9jm#RW,qrnnev%Fpr)hre?XUR76y02Z9!8.#,qH,3
 vU'GaY)Jm#a=yOA'M[2(27nl#Bli1w(BbL6K_4I?uwYOn~h>&?K+ncH|=b<]5E^n86b9W<1SAAR.tGZ,]k$o7nf09h1+AnQ4w>[
 =[&Oo+4cKoua'8yo8kIp!+L3^#,)Wltg+W=FEi|,Jd$z=6r<z=oGBhlaXerjn<cOS!?[P<*R7W)5^d@Gi6*@=NuEjKB7Zy*8Z.u
 yw(%EJ1a9|3^OsrW2b!oT#tfAi,2<=s1DbgJx&33>0%1&I,=e|COx*oTR1dq?BhfEI)K$oaZ@j19]]p%cCr]&b)LuN_]>X]rSg3
 #=f.T<&TEm@zuC2q=?f(OP3o<%EO1h7)]#YD5vcO_RVB*c]M#QwdHi;CFtYb+fDM|LMqh1HuP_6&(lrcaZe.Ei+*9^PRB#?J&9>
 <#gMOnA1_WZe^P^tXF!~[5nx@>;!H)ZFWr8+.s>fNO!W%|lAO)IbHa$,<Xa)qDobbAF]ziJ.Uq<*Eic;l_0A&.fJzseZ%U[a_1>
 M'O913r5bK&%C7O)Ty7b6gHtjMIcbCH1_(IRw^Wsv*#qYOF;,IY~85NVB:z[1Q67.KTiK0^nGC9qcU6$)O$;0S>!S'j'w#|PI'z
 MM3>OuzjZe3!sv]*CfN'~ikpyB@k+:|:RE7r>oq,l$*xp;29Lw_lj'#jiSXT,Ui|RCrwVVQI,yY)Jle!!@?+FJreoV,ND[0xeEY
 =:C>Ql#ar0Zmljrs4R&1KIq(b1R+atccl,TwxVqm&Fh^A?~b.dRcxn>!o96vFo*#9keA]=CtJ(+Kv';|'w)dhESDJ?q|jtD;I8z
 <Q0Tw5$pkwrZM<Hc>#as0:U;(ZjRt>=*>=AW,2|5O3]ERIbcVb'l,wYRd1gse#a(()~xtNNsAtZlC<kkqAU:[o72?h|EzK,:':m
 w@Piv5n4BaEdqnu90Tz6ozW+bqh7K5qY':lb%,i%dUn5rv_tPir~Jz!!?L:KTRn@,);JuS|BX~;CF%jtGrdk;>|0Whv+=>H)htw
 dG:Uj2q4ap'lPN;Js|5qmio1lfjz@|('DD:L8~5=o$0k@c.1.~D)=(&^891?87r;_R:,R^<!sSS8e#X%@F.7.,d~R5|X(2v1in'
 N=bueKsmSYL1&?e;b%:1gRR^C|L1i&R%bSH'W1KkF0T2kgZ:3cht<Jgx]!T6Sf!x;7Hf[pHCOg$*(MY+4qObi~9_0z<G5rfni26
 m)Jv=SGE>ATC,_Ii,kxz<1koP?E3~jl&0v,m)grMk8^2x>;cQci,sW722#43R)y9I$Xcecl;sASzBA,cPICafFVx7O%^p6K[:jb
 D%s;PbjrjmY#YeIo;nM&ne6O+<7@Fj^e6d40]&Qhh6^fiDH9pMy5S@I6c44CGwKFw1$'4?a8u176MxowxoI[(c4cDlpPv!Rk!VF
 ~9SA81S8,o%P(Sn[KMr[Xyp,7fyI7iqp?H0n];WCYWw%VUDV@z78f8?j9r1qgiF([:azA;IX.'B)^e?ziHm~f#gEU!;;9xr^Mm^
 w%;cOQEwtRoN[QzQiC.0EB1K']@0*BOF=FCcYs6($!w)]koiDHd3!(mg<[L107>Du8&hX9rGN%Y^mm8w#.@hJPOr:zbyenmT6tp
 Pbqmr|Ta^sqtb#p,_j#a+9gdQhHL*'9pJ~wZ8R?Nh,x2F,>HN)%=vK?<yDjOG)]J_LRXd=;Y44WEg5IdK|VLvo3UWne*B3s+i#f
 |+qt).d@zXdNr5?8Jr^TyMiM5;bESE]pufj;:!72dRMS=G13POb|?V@DLKTFXEd]=!SGurA_[D0c]vBrr_AF,|OuaEY@d;t=M>r
 :?<6tH8Cz!RP%vY3c9nlzmSR^LM8+s$_0W2~F(6&WM)#^6[Cgy>*hxI&yh_5x!Ff#;.(~eV21Z.M7w!GIc0zZ_sQ992)@DZL<fq
 r*WskQofgz2$0&qhfX>:67mH3G!b@WQHIRIC6qY~$;AfCqosX~zGRVNIXMR%nTM6B,|2a~7XzWG!3T[Y!<cp8'n[cHo;lu^];JZ
 eKQ@beIX|3MY!VY_Cs|auH=OlOj0^hohDA#8dk&W89KR]Yt|Ee?GODIdc!AfbeE@.*,@7D,vYG!yzhu7S5D6>a'0<x|Qs[Ne;|q
 +spK4;ZRdQv3Z)H2CMwwKHZxZaj)8>=h$=s9H:@_x]#k]tq2<CKYml*Y2@ZF@9w)mo]?M*r&,776aBD3Vj|G>t:u#*.sV)f_Uk2
 Z:k|2g<cTpK5[QPAZPca7E1$(3g^+[;317bCy>65g@BF=(u9zbs%|q1#~XxV=c>A4[:f1[N)KnPID8A0'17uSkr>=Vb=80plK^O
 .E>VYm~Rm)@0[mFDw[)dM%iNNLGts'myrAP79wFRgqIc#p@,vQbzbp4+gnN4%)i]TTf'dql9q%E(4@M>gK^U2Y(iS4dyiyQRXfZ
 J~zI.bq7tn*1;Mk!I6hPs2TYRWX:qBU)wYxh0)httefICD#HB_!VoQqXH)@'NnI(G.bVP6s[^[!n!KkLhmRCK+!Dbv<W?>;?don
 I4%;m=n5Ht4^]bL(CUzQXi[KW|mGAXhrF_W_30Ly0Lu^c@%(8q(cre?o4>],@T~*PuybmPX%Hy@+4+eyo3Ko30=OzwIHNQVBm!P
 GXBy7)^n1b4%R+_FHgDfW;+)R=mp0^v'4HIeyz34>i_5D<VYWagfolp9:a~T_':I.%JhK!iFQ:rIvC@b.@Z6QZLG#W*0S$5(1*2
 MpwOh$OtVf$T#tMP3Iu5*<J.E;R<uqc6mA4*>OKIBdU0+m+xa])_VV|PSXb=^<c_Hgaj:Y>,Gi9&U;Gnt%1],qQzjc;yubB1;Q~
 I^55*WBVVM?]V#se'EcAUo05ISM,3zN+l.6)NM<Mi[yLe8NaB1@Ei;TF_jIT<n+yoS;:y0vG<pDj3PEUyy)Sl8GV):|Lje#.z%(
 b5(Mul_8CW*J+QX6Gn.bq>bk@0wrtj_CE=i[rQrBTwL%u59texb@Q8Z=<e>u?|pDX.vpC]YlJ#d%VAHj<OT4mTb2uK|0YvAQaEQ
 uC4F%60zds?>*>16Q'bQI+sl[x88xKIPTy4(Dk6%s<au&i*ORq)QtpfmexcUx4GO$;"⟩

def characterRows (index : Nat) : List Text :=
  (((ofChars characterTables.unpack).splitOn '|').getD index []).splitOn ' '

/-- The numbers of a row, in hexadecimal and with commas between them. -/
def rowNumbers (row : Text) : List Nat := (row.splitOn ',').filterMap hexValue?

end AgentFlow.Text
